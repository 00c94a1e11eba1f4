import PyWorkflowKit.Persistence.Contracts
import PyWorkflowKit.Sql.Rows

/-!
# Row mapping

The functions between domain values and relational rows, and the round trips
that hold for them.
-/

namespace PyWorkflowKit.Sql

open PyWorkflowKit.Core PyWorkflowKit.Domain PyWorkflowKit.States
open PyWorkflowKit.Persistence

/-- A dictionary loaded from a JSON column. -/
abbrev JsonDict := List (String × JsonDoc)

/-- `document.get(key)`. -/
def getKey (document : JsonDict) (key : String) : Option JsonDoc :=
  (document.find? fun member => member.1 = key).map Prod.snd

/-- `document[key]`. -/
def requireKey (document : JsonDict) (key : String) : Except PyError JsonDoc :=
  match getKey document key with
  | some value => .ok value
  | none => .error (.keyError key)

/-- `str(value)`; the mapping writes nothing but strings under these keys. -/
def asString : JsonDoc → Except PyError String
  | .str value => .ok value
  | _ => .error (.typeError "persisted text value must be a string")

/-- `_optional_string(document.get(key))`. -/
def optionalString (document : JsonDict) (key : String) :
    Except PyError (Option String) :=
  match getKey document key with
  | none => .ok none
  | some .null => .ok none
  | some (.str value) => .ok (some value)
  | some _ =>
      .error (.typeError "persisted optional text value must be a string")

/-- The constructor check on a required text field. -/
def requireText (value : String) : Except PyError Text :=
  match Text.ofString? value with
  | some text => .ok text
  | none => .error (.valueError "value must not be empty")

/-- The constructor check on an optional text field. -/
def optionalText : Option String → Except PyError (Option Text)
  | none => .ok none
  | some value => (requireText value).map some

def stringDoc (value : Option Text) : JsonDoc :=
  match value with
  | some text => .str text.value
  | none => .null

/-- A required text under `key`. -/
def textAt (document : JsonDict) (key : String) : Except PyError Text := do
  let value ← requireKey document key
  let text ← asString value
  requireText text

/-- An optional text under `key`. -/
def optionalTextAt (document : JsonDict) (key : String) :
    Except PyError (Option Text) := do
  let value ← optionalString document key
  optionalText value

/-- `Enum(value)`. -/
def requireMember {α : Type} [StrEnum α] (value : String) : Except PyError α :=
  match StrEnum.parse? value with
  | some member => .ok member
  | none => .error (.valueError (PyError.quoted value ++ " is not a valid member"))

/-- `_pairs_to_json`. -/
def pairsToJson (values : Pairs) : JsonDoc :=
  .list (values.map fun pair => .list [.str pair.1, .str pair.2])

def pairFromJson : JsonDoc → Except PyError (String × String)
  | .list [.str key, .str value] => .ok (key, value)
  | _ =>
      .error (.typeError "persisted pair collection contains an invalid entry")

/-- `_pairs_from_json`. -/
def pairsFromJson : Option JsonDoc → Except PyError Pairs
  | none => .ok []
  | some .null => .ok []
  | some (.list items) => gather (items.map pairFromJson)
  | some _ => .error (.typeError "persisted pair collection must be a list")

/-- `correlation_to_json`. -/
def correlationToJson (value : CorrelationContext) : JsonDict := [
  ("correlation_id", .str value.correlationId.str),
  ("causation_id", stringDoc value.causationId),
  ("parent_execution_id", stringDoc value.parentExecutionId),
  ("workflow_run_id", stringDoc value.workflowRunId),
  ("task_run_id", stringDoc value.taskRunId),
  ("task_attempt_id", stringDoc value.taskAttemptId),
  ("ingestion_run_id", stringDoc value.ingestionRunId),
  ("transformation_execution_id", stringDoc value.transformationExecutionId),
  ("trace_id", stringDoc value.traceId),
  ("span_id", stringDoc value.spanId)]

/-- `correlation_from_json`. -/
def correlationFromJson (value : JsonDict) : Except PyError CorrelationContext := do
  let correlationId ← textAt value "correlation_id"
  let causationId ← optionalTextAt value "causation_id"
  let parentExecutionId ← optionalTextAt value "parent_execution_id"
  let workflowRunId ← optionalTextAt value "workflow_run_id"
  let taskRunId ← optionalTextAt value "task_run_id"
  let taskAttemptId ← optionalTextAt value "task_attempt_id"
  let ingestionRunId ← optionalTextAt value "ingestion_run_id"
  let transformationExecutionId ← optionalTextAt value "transformation_execution_id"
  let traceId ← optionalTextAt value "trace_id"
  let spanId ← optionalTextAt value "span_id"
  return {
    correlationId := ⟨correlationId⟩
    causationId := causationId
    parentExecutionId := parentExecutionId
    workflowRunId := workflowRunId
    taskRunId := taskRunId
    taskAttemptId := taskAttemptId
    ingestionRunId := ingestionRunId
    transformationExecutionId := transformationExecutionId
    traceId := traceId
    spanId := spanId
    traceparent := none
    tracestate := none
    baggage := .empty }

/-- `external_ref_to_json`. -/
def externalRefToJson (value : ExternalRunRef) : JsonDict := [
  ("provider", .str value.provider.value),
  ("external_run_id", .str value.externalRunId.value),
  ("kind", .str value.kind.value),
  ("status_hint", stringDoc value.statusHint),
  ("status_locator", stringDoc value.statusLocator),
  ("correlation_id", stringDoc (value.correlationId.map CorrelationId.value)),
  ("causation_id", stringDoc value.causationId),
  ("metadata", pairsToJson value.metadata),
  ("namespace", .str value.nameSpace.value),
  ("contract_version", .str value.contractVersion.value)]

/-- `str(value.get(key, default))` for a text that has a default. -/
def textOr (document : JsonDict) (key : String) (default : Text) :
    Except PyError Text :=
  match getKey document key with
  | none => .ok default
  | some value => do
      let text ← asString value
      requireText text

/-- `external_ref_from_json`. -/
def externalRefFromJson (value : JsonDict) : Except PyError ExternalRunRef := do
  let correlationId ← optionalTextAt value "correlation_id"
  let provider ← textAt value "provider"
  let externalRunId ← textAt value "external_run_id"
  let kind ← textAt value "kind"
  let statusHint ← optionalTextAt value "status_hint"
  let statusLocator ← optionalTextAt value "status_locator"
  let causationId ← optionalTextAt value "causation_id"
  let metadata ← pairsFromJson (getKey value "metadata")
  let nameSpace ← textOr value "namespace" (.lit "pyworkflowkit.external_run")
  let contractVersion ← textOr value "contract_version" (.lit "1")
  return {
    provider := provider
    externalRunId := externalRunId
    kind := kind
    statusHint := statusHint
    statusLocator := statusLocator
    correlationId := correlationId.map CorrelationId.mk
    causationId := causationId
    metadata := metadata
    nameSpace := nameSpace
    contractVersion := contractVersion }

/-- `failure_to_json` of evidence that is present. -/
def failureToJson (value : FailureEvidence) : JsonDict := [
  ("error_code", .str value.errorCode.value),
  ("category", .str value.category.value),
  ("retryability", .str value.retryability.value),
  ("uncertainty", .str value.uncertainty.value),
  ("correlation_id", .str value.correlationId.str),
  ("source_framework", .str value.sourceFramework.value),
  ("workflow_run_id", stringDoc value.workflowRunId),
  ("task_run_id", stringDoc value.taskRunId),
  ("task_attempt_id", stringDoc value.taskAttemptId),
  ("external_run", match value.externalRun with
    | some externalRun => .dict (externalRefToJson externalRun)
    | none => .null),
  ("source_component", stringDoc value.sourceComponent),
  ("provider_code", stringDoc value.providerCode),
  ("message_summary", stringDoc value.messageSummary),
  ("occurred_at", .dateTime value.occurredAt),
  ("details", pairsToJson value.details),
  ("contract_version", .str value.contractVersion.value)]

/-- The `external_run` member of failure evidence. -/
def externalRunAt (document : JsonDict) : Except PyError (Option ExternalRunRef) :=
  match getKey document "external_run" with
  | none => .ok none
  | some .null => .ok none
  | some (.dict members) => (externalRefFromJson members).map some
  | some _ => .error
      (.typeError "persisted external_run failure evidence must be an object")

/-- `datetime.fromisoformat(document[key])`. -/
def dateTimeAt (document : JsonDict) (key : String) : Except PyError Instant := do
  let value ← requireKey document key
  match value with
  | .dateTime at_ => .ok at_
  | _ => .error (.valueError "Invalid isoformat string")

/-- A required enumeration member under `key`. -/
def memberAt {α : Type} [StrEnum α] (document : JsonDict) (key : String) :
    Except PyError α := do
  let value ← requireKey document key
  let text ← asString value
  requireMember text

/-- `failure_from_json` of a document that is present. -/
def failureFromJson (value : JsonDict) : Except PyError FailureEvidence := do
  let externalRun ← externalRunAt value
  let errorCode ← textAt value "error_code"
  let category ← memberAt value "category"
  let retryability ← memberAt value "retryability"
  let uncertainty ← memberAt value "uncertainty"
  let correlationId ← textAt value "correlation_id"
  let sourceFramework ← textOr value "source_framework" (.lit "pyworkflowkit")
  let workflowRunId ← optionalTextAt value "workflow_run_id"
  let taskRunId ← optionalTextAt value "task_run_id"
  let taskAttemptId ← optionalTextAt value "task_attempt_id"
  let sourceComponent ← optionalTextAt value "source_component"
  let providerCode ← optionalTextAt value "provider_code"
  let messageSummary ← optionalTextAt value "message_summary"
  let occurredAt ← dateTimeAt value "occurred_at"
  let details ← pairsFromJson (getKey value "details")
  let contractVersion ← textOr value "contract_version" (.lit "1")
  return {
    errorCode := errorCode
    category := category
    retryability := retryability
    uncertainty := uncertainty
    correlationId := ⟨correlationId⟩
    sourceFramework := sourceFramework
    workflowRunId := workflowRunId
    taskRunId := taskRunId
    taskAttemptId := taskAttemptId
    externalRun := externalRun
    sourceComponent := sourceComponent
    providerCode := providerCode
    messageSummary := messageSummary
    occurredAt := occurredAt
    details := details
    contractVersion := contractVersion }

/-- `failure_from_json`. -/
def optionalFailureFromJson :
    Option JsonDict → Except PyError (Option FailureEvidence)
  | none => .ok none
  | some document => (failureFromJson document).map some

section JsonRoundTrips

@[simp]
theorem requireText_value (text : Text) : requireText text.value = .ok text := by
  simp [requireText]

@[simp]
theorem optionalText_map_value (value : Option Text) :
    optionalText (value.map Text.value) = .ok value := by
  cases value <;> simp [optionalText, Except.map]

@[simp]
theorem requireMember_value {α : Type} [StrEnum α] (member : α) :
    requireMember (StrEnum.value member) = .ok member := by
  simp [requireMember]

@[simp]
theorem getKey_cons (key wanted : String) (value : JsonDoc) (rest : JsonDict) :
    getKey ((key, value) :: rest) wanted =
      if key = wanted then some value else getKey rest wanted := by
  unfold getKey
  by_cases hkey : key = wanted <;> simp [hkey]

theorem textAt_of_getKey {document : JsonDict} {key : String} {text : Text}
    (hget : getKey document key = some (.str text.value)) :
    textAt document key = .ok text := by
  simp [textAt, requireKey, hget, asString, bind, Except.bind]

theorem optionalTextAt_of_getKey {document : JsonDict} {key : String}
    {value : Option Text} (hget : getKey document key = some (stringDoc value)) :
    optionalTextAt document key = .ok value := by
  cases value <;>
    simp [optionalTextAt, optionalString, hget, stringDoc, optionalText, bind,
      Except.bind, Except.map]

theorem textOr_of_getKey {document : JsonDict} {key : String} {text default : Text}
    (hget : getKey document key = some (.str text.value)) :
    textOr document key default = .ok text := by
  simp [textOr, hget, asString, bind, Except.bind]

theorem memberAt_of_getKey {α : Type} [StrEnum α] {document : JsonDict}
    {key : String} {member : α}
    (hget : getKey document key = some (.str (StrEnum.value member))) :
    memberAt document key = .ok member := by
  simp [memberAt, requireKey, hget, asString, bind, Except.bind]

theorem pairsFromJson_pairsToJson (values : Pairs) :
    pairsFromJson (some (pairsToJson values)) = .ok values := by
  simp only [pairsToJson, pairsFromJson, List.map_map, Function.comp_def,
    pairFromJson]
  simpa using gather_map_ok (fun pair : String × String => pair) values

/-- External references survive their JSON form. -/
theorem externalRefFromJson_externalRefToJson (value : ExternalRunRef) :
    externalRefFromJson (externalRefToJson value) = .ok value := by
  have hcorrelation : optionalTextAt (externalRefToJson value) "correlation_id" =
      .ok (value.correlationId.map CorrelationId.value) :=
    optionalTextAt_of_getKey (by simp [externalRefToJson])
  have hprovider : textAt (externalRefToJson value) "provider" =
      .ok value.provider := textAt_of_getKey (by simp [externalRefToJson])
  have hrun : textAt (externalRefToJson value) "external_run_id" =
      .ok value.externalRunId := textAt_of_getKey (by simp [externalRefToJson])
  have hkind : textAt (externalRefToJson value) "kind" = .ok value.kind :=
    textAt_of_getKey (by simp [externalRefToJson])
  have hhint : optionalTextAt (externalRefToJson value) "status_hint" =
      .ok value.statusHint := optionalTextAt_of_getKey (by simp [externalRefToJson])
  have hlocator : optionalTextAt (externalRefToJson value) "status_locator" =
      .ok value.statusLocator :=
    optionalTextAt_of_getKey (by simp [externalRefToJson])
  have hcausation : optionalTextAt (externalRefToJson value) "causation_id" =
      .ok value.causationId := optionalTextAt_of_getKey (by simp [externalRefToJson])
  have hmetadata : pairsFromJson (getKey (externalRefToJson value) "metadata") =
      .ok value.metadata := by
    rw [← pairsFromJson_pairsToJson value.metadata]
    simp [externalRefToJson]
  have hnamespace : textOr (externalRefToJson value) "namespace"
      (.lit "pyworkflowkit.external_run") = .ok value.nameSpace :=
    textOr_of_getKey (by simp [externalRefToJson])
  have hversion : textOr (externalRefToJson value) "contract_version" (.lit "1") =
      .ok value.contractVersion := textOr_of_getKey (by simp [externalRefToJson])
  unfold externalRefFromJson
  rw [hcorrelation, hprovider, hrun, hkind, hhint, hlocator, hcausation, hmetadata,
    hnamespace, hversion]
  cases value with
  | mk provider run kind hint locator correlation causation metadata nameSpace
      version =>
    cases correlation <;> rfl

/-- Failure evidence survives its JSON form. -/
theorem failureFromJson_failureToJson (value : FailureEvidence) :
    failureFromJson (failureToJson value) = .ok value := by
  have hexternal : externalRunAt (failureToJson value) = .ok value.externalRun := by
    cases hrun : value.externalRun with
    | none => simp [externalRunAt, failureToJson, hrun]
    | some externalRun =>
        simp [externalRunAt, failureToJson, hrun,
          externalRefFromJson_externalRefToJson, Except.map]
  have htext : ∀ key text,
      getKey (failureToJson value) key = some (.str (Text.value text)) →
      textAt (failureToJson value) key = .ok text := fun _ _ => textAt_of_getKey
  have hoptional : ∀ key text,
      getKey (failureToJson value) key = some (stringDoc text) →
      optionalTextAt (failureToJson value) key = .ok text :=
    fun _ _ => optionalTextAt_of_getKey
  have hcategory : memberAt (failureToJson value) "category" = .ok value.category :=
    memberAt_of_getKey (by simp [failureToJson]; rfl)
  have hretryability : memberAt (failureToJson value) "retryability" =
      .ok value.retryability := memberAt_of_getKey (by simp [failureToJson]; rfl)
  have huncertainty : memberAt (failureToJson value) "uncertainty" =
      .ok value.uncertainty := memberAt_of_getKey (by simp [failureToJson]; rfl)
  have hframework : textOr (failureToJson value) "source_framework"
      (.lit "pyworkflowkit") = .ok value.sourceFramework :=
    textOr_of_getKey (by simp [failureToJson])
  have hoccurred : dateTimeAt (failureToJson value) "occurred_at" =
      .ok value.occurredAt := by
    simp [dateTimeAt, requireKey, failureToJson, bind, Except.bind]
  have hdetails : pairsFromJson (getKey (failureToJson value) "details") =
      .ok value.details := by
    rw [← pairsFromJson_pairsToJson value.details]
    simp [failureToJson]
  have hversion : textOr (failureToJson value) "contract_version" (.lit "1") =
      .ok value.contractVersion := textOr_of_getKey (by simp [failureToJson])
  unfold failureFromJson
  rw [hexternal, hcategory, hretryability, huncertainty, hframework, hoccurred,
    hdetails, hversion,
    htext "error_code" value.errorCode (by simp [failureToJson]),
    htext "correlation_id" value.correlationId.value
      (by simp [failureToJson, CorrelationId.str]),
    hoptional "workflow_run_id" value.workflowRunId (by simp [failureToJson]),
    hoptional "task_run_id" value.taskRunId (by simp [failureToJson]),
    hoptional "task_attempt_id" value.taskAttemptId (by simp [failureToJson]),
    hoptional "source_component" value.sourceComponent (by simp [failureToJson]),
    hoptional "provider_code" value.providerCode (by simp [failureToJson]),
    hoptional "message_summary" value.messageSummary (by simp [failureToJson])]
  rfl

theorem optionalFailureFromJson_map (value : Option FailureEvidence) :
    optionalFailureFromJson (value.map failureToJson) = .ok value := by
  cases value with
  | none => rfl
  | some failure =>
      simp [optionalFailureFromJson, failureFromJson_failureToJson, Except.map]

/-- The correlation columns keep every field but the W3C trace headers and the
baggage. -/
theorem correlationFromJson_of_getKey (value : CorrelationContext)
    {document : JsonDict}
    (hdocument : ∀ key doc, getKey (correlationToJson value) key = some doc →
      getKey document key = some doc) :
    correlationFromJson document =
      .ok { value with
        traceparent := none
        tracestate := none
        baggage := .empty } := by
  have hoptional : ∀ key text,
      getKey (correlationToJson value) key = some (stringDoc text) →
      optionalTextAt document key = .ok text :=
    fun key text hget => optionalTextAt_of_getKey (hdocument key _ hget)
  have hid : textAt document "correlation_id" = .ok value.correlationId.value :=
    textAt_of_getKey (hdocument _ _ (by simp [correlationToJson, CorrelationId.str]))
  unfold correlationFromJson
  rw [hid,
    hoptional "causation_id" value.causationId (by simp [correlationToJson]),
    hoptional "parent_execution_id" value.parentExecutionId
      (by simp [correlationToJson]),
    hoptional "workflow_run_id" value.workflowRunId (by simp [correlationToJson]),
    hoptional "task_run_id" value.taskRunId (by simp [correlationToJson]),
    hoptional "task_attempt_id" value.taskAttemptId (by simp [correlationToJson]),
    hoptional "ingestion_run_id" value.ingestionRunId (by simp [correlationToJson]),
    hoptional "transformation_execution_id" value.transformationExecutionId
      (by simp [correlationToJson]),
    hoptional "trace_id" value.traceId (by simp [correlationToJson]),
    hoptional "span_id" value.spanId (by simp [correlationToJson])]
  rfl

end JsonRoundTrips

end PyWorkflowKit.Sql
