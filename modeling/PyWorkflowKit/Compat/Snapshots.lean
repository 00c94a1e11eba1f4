import PyWorkflowKit.Domain.IsoText
import PyWorkflowKit.Domain.JsonText
import PyWorkflowKit.Serialization.Bodies
import PyWorkflowKit.V1.Entities

/-!
# Snapshots of runtime metadata

The strict JSON export of the runtime metadata of version 1, and the closed import that reads
it back.
-/

namespace PyWorkflowKit.Compat

open PyWorkflowKit.Core PyWorkflowKit.Domain
open PyWorkflowKit.Serialization (Body inKeyOrder itemsInKeyOrder membersInKeyOrder
  membersInKeyOrder_eq_map map_fst_membersInKeyOrder canonicalJsonText_inKeyOrder)

/-- The readers of the standard library, as far as they read texts that this module does not
write. -/
structure TextReaders where
  floats : FloatTexts
  otherJson : String → Except PyError JsonValue
  otherDateTimes : String → Except PyError Moment

/-- `json.loads` with `_reject_duplicate_pairs`. -/
def TextReaders.loads (readers : TextReaders) (text : String) : Except PyError JsonValue :=
  match loadsCanonical readers.floats text with
  | some value => .ok value
  | none => readers.otherJson text

/-- `datetime.fromisoformat`. -/
def TextReaders.fromIsoformat (readers : TextReaders) (text : String) : Except PyError Moment :=
  match (readIso text).filter fun at_ => at_.isoText = text with
  | some at_ => .ok (.aware at_)
  | none => readers.otherDateTimes text

section Export

/-- `_iso`. -/
def iso (value : Option DateTime) : JsonValue :=
  match value with
  | none => .null
  | some at_ => .str at_.isoText

/-- A string that may be absent. -/
def optionalJson (value : Option String) : JsonValue :=
  match value with
  | none => .null
  | some text => .str text

/-- A mapping of Python objects as a dictionary. -/
def dictObject (value : V1.Objects) : PyValue :=
  .dict (value.map fun member => (.str member.1, member.2))

/-- `_portable_mapping`. -/
def portableMapping (value : V1.Objects) (path : String) : Except PyError JsonValue := do
  let portable ← normalizeJsonValue path (dictObject value)
  match portable with
  | .mapping members => .ok (.mapping members)
  | _ => .error (.typeError (path ++ " must normalize to an object"))

/-- `_export_v1_workflow_run`. -/
def exportV1WorkflowRun (value : V1.WorkflowRun) : Except PyError Body := do
  let parameters ← portableMapping value.parameters "workflow_run.parameters"
  .ok [
    ("run_id", .str value.runId.str),
    ("workflow_id", .str value.workflowId.value),
    ("workflow_version", .str value.workflowVersion.value),
    ("status", .str value.status.value),
    ("parameters", parameters),
    ("created_at", iso value.createdAt),
    ("started_at", iso value.startedAt),
    ("finished_at", iso value.finishedAt)]

/-- `_export_v1_task_run`. -/
def exportV1TaskRun (value : V1.TaskRun) : Body :=
  [("task_run_id", .str value.taskRunId.str),
    ("run_id", .str value.runId.str),
    ("task_id", .str value.taskId.value),
    ("status", .str value.status.value),
    ("skip_reason", optionalJson (value.skipReason.map V1.SkipReason.value)),
    ("created_at", iso value.createdAt),
    ("started_at", iso value.startedAt),
    ("finished_at", iso value.finishedAt)]

/-- `_export_v1_task_attempt`. -/
def exportV1TaskAttempt (value : V1.TaskAttempt) : Except PyError Body := do
  let errorMetadata ← portableMapping value.errorMetadata "task_attempt.error_metadata"
  .ok [
    ("attempt_id", .str value.attemptId.str),
    ("task_run_id", .str value.taskRunId.str),
    ("attempt_number", .int value.attemptNumber),
    ("status", .str value.status.value),
    ("started_at", iso value.startedAt),
    ("finished_at", iso value.finishedAt),
    ("error_type", optionalJson value.errorType),
    ("error_message", optionalJson value.errorMessage),
    ("error_category", optionalJson value.errorCategory),
    ("retry_eligible_at", iso value.retryEligibleAt),
    ("error_metadata", errorMetadata)]

/-- `_export_v1_external_run`. -/
def exportV1ExternalRun (value : V1.ExternalRunRef) : Except PyError Body := do
  let metadata ← portableMapping value.metadata "external_run.metadata"
  .ok [
    ("external_ref_id", .str value.externalRefId.value),
    ("provider", .str value.provider.value),
    ("external_run_id", .str value.externalRunId.value),
    ("uri", optionalJson (value.uri.map Text.value)),
    ("metadata", metadata)]

end Export

section Import

/-- `value[key]`. -/
def item (value : Body) (key : String) : Except PyError JsonValue :=
  match value.lookup key with
  | some found => .ok found
  | none => .error (.keyError key)

/-- `_require_object`. -/
def requireObject (value : JsonValue) (fieldName : String) : Except PyError Body :=
  match value with
  | .mapping members => .ok members
  | _ => .error (.valueError (fieldName ++ " must be an object with string keys"))

/-- `_require_list`. -/
def requireList (value : JsonValue) (fieldName : String) : Except PyError (List JsonValue) :=
  match value with
  | .tuple items => .ok items
  | _ => .error (.valueError (fieldName ++ " must be a list"))

/-- The keys of a dictionary are the expected ones. -/
def SameFields (value : Body) (expected : List String) : Prop :=
  (∀ member ∈ value, member.1 ∈ expected) ∧ ∀ key ∈ expected, key ∈ value.map Prod.fst

instance (value : Body) (expected : List String) : Decidable (SameFields value expected) :=
  inferInstanceAs (Decidable (_ ∧ _))

/-- The fields that `_import_v1_workflow_run` expects. -/
def workflowRunFields : List String :=
  ["run_id", "workflow_id", "workflow_version", "status", "parameters", "created_at",
    "started_at", "finished_at"]

/-- The fields that `_import_v1_task_run` expects. -/
def taskRunFields : List String :=
  ["task_run_id", "run_id", "task_id", "status", "skip_reason", "created_at", "started_at",
    "finished_at"]

/-- The fields that `_import_v1_task_attempt` expects. -/
def taskAttemptFields : List String :=
  ["attempt_id", "task_run_id", "attempt_number", "status", "started_at", "finished_at",
    "error_type", "error_message", "error_category", "retry_eligible_at", "error_metadata"]

/-- The fields that `_import_v1_external_run` expects. -/
def externalRunFields : List String :=
  ["external_ref_id", "provider", "external_run_id", "uri", "metadata"]

/-- The fields that `from_json` expects. -/
def payloadFields : List String :=
  ["contract", "contract_version", "workflow_run", "task_runs", "task_attempts",
    "external_runs", "external_run_attempt_ownership"]

/-- `_require_fields`. -/
def requireFields (value : Body) (expected : List String) (fieldName : String) :
    Except PyError Unit :=
  if SameFields value expected then .ok ()
  else .error (.valueError (fieldName ++ " fields do not match migration contract"))

/-- `_string`. -/
def string (value : JsonValue) (fieldName : String) : Except PyError Text :=
  match value with
  | .str text =>
      match Text.ofString? text with
      | some text => .ok text
      | none => .error (.valueError (fieldName ++ " must be a non-empty string"))
  | _ => .error (.valueError (fieldName ++ " must be a non-empty string"))

/-- `_optional_string`. -/
def optionalString (value : JsonValue) (fieldName : String) : Except PyError (Option Text) :=
  match value with
  | .null => .ok none
  | value => (string value fieldName).map some

/-- The member of an enumeration with a value. -/
def member {α : Type} [StrEnum α] (enumName : String) (text : Text) : Except PyError α :=
  match StrEnum.parse? text.value with
  | some found => .ok found
  | none =>
      .error (.valueError (PyError.quoted text.value ++ " is not a valid " ++ enumName))

variable (readers : TextReaders)

/-- `_datetime_or_none`. -/
def datetimeOrNone (value : JsonValue) (fieldName : String) :
    Except PyError (Option DateTime) :=
  match value with
  | .null => .ok none
  | value => do
      let raw ← string value fieldName
      match ← readers.fromIsoformat raw.value with
      | .aware parsed => .ok (some parsed)
      | .naive => .error (.valueError (fieldName ++ " must be timezone-aware"))

/-- What the `WorkflowRun` constructor says of a status that does not fit. -/
def workflowRunRefusal : V1.WorkflowRunStatus → String
  | .pending => "PENDING WorkflowRun cannot have started_at or finished_at."
  | .running => "RUNNING WorkflowRun cannot have finished_at."
  | .succeeded | .failed | .cancelled => "Terminal WorkflowRun must have finished_at."

/-- What the `TaskRun` constructor says of a status that does not fit. -/
def taskRunRefusal (status : V1.TaskRunStatus) (skipReason : Option V1.SkipReason) : String :=
  if status = .skipped ∧ skipReason = none then "SKIPPED TaskRun must have skip_reason."
  else if status ≠ .skipped ∧ skipReason ≠ none then
    "skip_reason is only valid for a SKIPPED TaskRun."
  else if status.isTerminal then "Terminal TaskRun must have finished_at."
  else status.value ++ " TaskRun cannot have finished_at."

/-- What the `TaskAttempt` constructor says of a status that does not fit. -/
def taskAttemptRefusal (status : V1.TaskAttemptStatus)
    (finishedAt retryEligibleAt : Option DateTime) : String :=
  if status = .running ∧ finishedAt ≠ none then "RUNNING TaskAttempt cannot have finished_at."
  else if status ≠ .running ∧ finishedAt = none then "Terminal TaskAttempt must have finished_at."
  else if retryEligibleAt ≠ none ∧ status ≠ .failed then
    "retry_eligible_at is only valid for FAILED TaskAttempt."
  else "retry_eligible_at cannot be earlier than finished_at."

instance (status : V1.WorkflowRunStatus) (startedAt finishedAt : Option DateTime) :
    Decidable (status.Fits startedAt finishedAt) := by
  cases status
  · exact inferInstanceAs (Decidable (startedAt = none ∧ finishedAt = none))
  · exact inferInstanceAs (Decidable (finishedAt = none))
  all_goals exact inferInstanceAs (Decidable (finishedAt ≠ none))

instance (status : V1.TaskRunStatus) (skipReason : Option V1.SkipReason)
    (finishedAt : Option DateTime) : Decidable (status.Fits skipReason finishedAt) :=
  inferInstanceAs (Decidable (_ ∧ _))

instance (status : V1.TaskAttemptStatus) (finishedAt retryEligibleAt : Option DateTime) :
    Decidable (status.Fits finishedAt retryEligibleAt) :=
  inferInstanceAs (Decidable (_ ∧ _))

/-- The members of a JSON object as a mapping of Python objects. -/
def objects (members : Body) : V1.Objects :=
  members.map fun member => (member.1, plainJsonValue member.2)

/-- `_import_v1_workflow_run`. -/
def importV1WorkflowRun (value : Body) : Except PyError V1.WorkflowRun := do
  requireFields value workflowRunFields "workflow_run"
  let runId ← string (← item value "run_id") "run_id"
  let workflowId ← string (← item value "workflow_id") "workflow_id"
  let workflowVersion ← string (← item value "workflow_version") "workflow_version"
  let status ← member "WorkflowRunStatus" (← string (← item value "status") "status")
  let parameters ← requireObject (← item value "parameters") "parameters"
  let createdAt ← datetimeOrNone readers (← item value "created_at") "created_at"
  let startedAt ← datetimeOrNone readers (← item value "started_at") "started_at"
  let finishedAt ← datetimeOrNone readers (← item value "finished_at") "finished_at"
  if h : status.Fits startedAt finishedAt then
    .ok {
      runId := ⟨runId⟩
      workflowId := workflowId
      workflowVersion := workflowVersion
      status := status
      parameters := objects parameters
      createdAt := createdAt
      startedAt := startedAt
      finishedAt := finishedAt
      fits := h }
  else .error (.valueError (workflowRunRefusal status))

/-- `_import_v1_task_run`. -/
def importV1TaskRun (value : Body) : Except PyError V1.TaskRun := do
  requireFields value taskRunFields "task_run"
  let skipValue ← item value "skip_reason"
  let taskRunId ← string (← item value "task_run_id") "task_run_id"
  let runId ← string (← item value "run_id") "run_id"
  let taskId ← string (← item value "task_id") "task_id"
  let status ← member "TaskRunStatus" (← string (← item value "status") "status")
  let skipReason ← (← optionalString skipValue "skip_reason").mapM (member "SkipReason")
  let createdAt ← datetimeOrNone readers (← item value "created_at") "created_at"
  let startedAt ← datetimeOrNone readers (← item value "started_at") "started_at"
  let finishedAt ← datetimeOrNone readers (← item value "finished_at") "finished_at"
  if h : status.Fits skipReason finishedAt then
    .ok {
      taskRunId := ⟨taskRunId⟩
      runId := ⟨runId⟩
      taskId := taskId
      status := status
      skipReason := skipReason
      createdAt := createdAt
      startedAt := startedAt
      finishedAt := finishedAt
      fits := h }
  else .error (.valueError (taskRunRefusal status skipReason))

/-- An integer, and no `bool`. -/
def requireInteger (value : JsonValue) (fieldName : String) : Except PyError Int :=
  match value with
  | .int number => .ok number
  | _ => .error (.valueError (fieldName ++ " must be an integer"))

/-- The `TaskAttempt` constructor on the values that an import reads. -/
def newTaskAttempt (attemptId taskRunId : Text) (attemptNumber : Int)
    (status : V1.TaskAttemptStatus) (startedAt finishedAt : Option DateTime)
    (errorType errorMessage errorCategory : Option Text) (retryEligibleAt : Option DateTime)
    (errorMetadata : V1.Objects) : Except PyError V1.TaskAttempt :=
  if hpositive : 1 ≤ attemptNumber.toNat then
    if h : status.Fits finishedAt retryEligibleAt then
      .ok {
        attemptId := ⟨attemptId⟩
        taskRunId := ⟨taskRunId⟩
        attemptNumber := attemptNumber.toNat
        status := status
        startedAt := startedAt
        finishedAt := finishedAt
        errorType := errorType.map Text.value
        errorMessage := errorMessage.map Text.value
        errorCategory := errorCategory.map Text.value
        retryEligibleAt := retryEligibleAt
        errorMetadata := errorMetadata
        positive := hpositive
        fits := h }
    else .error (.valueError (taskAttemptRefusal status finishedAt retryEligibleAt))
  else .error (.valueError "attempt_number must be greater than or equal to 1.")

/-- `_import_v1_task_attempt`. -/
def importV1TaskAttempt (value : Body) : Except PyError V1.TaskAttempt := do
  requireFields value taskAttemptFields "task_attempt"
  let attemptNumber ← requireInteger (← item value "attempt_number") "attempt_number"
  let attemptId ← string (← item value "attempt_id") "attempt_id"
  let taskRunId ← string (← item value "task_run_id") "task_run_id"
  let status ← member "TaskAttemptStatus" (← string (← item value "status") "status")
  let startedAt ← datetimeOrNone readers (← item value "started_at") "started_at"
  let finishedAt ← datetimeOrNone readers (← item value "finished_at") "finished_at"
  let errorType ← optionalString (← item value "error_type") "error_type"
  let errorMessage ← optionalString (← item value "error_message") "error_message"
  let errorCategory ← optionalString (← item value "error_category") "error_category"
  let retryEligibleAt ←
    datetimeOrNone readers (← item value "retry_eligible_at") "retry_eligible_at"
  let errorMetadata ← requireObject (← item value "error_metadata") "error_metadata"
  newTaskAttempt attemptId taskRunId attemptNumber status startedAt finishedAt errorType
    errorMessage errorCategory retryEligibleAt (objects errorMetadata)

/-- `_import_v1_external_run`. -/
def importV1ExternalRun (value : Body) : Except PyError V1.ExternalRunRef := do
  requireFields value externalRunFields "external_run"
  let externalRefId ← string (← item value "external_ref_id") "external_ref_id"
  let provider ← string (← item value "provider") "provider"
  let externalRunId ← string (← item value "external_run_id") "external_run_id"
  let uri ← optionalString (← item value "uri") "uri"
  let metadata ← requireObject (← item value "metadata") "metadata"
  .ok ⟨externalRefId, provider, externalRunId, uri, objects metadata⟩

end Import

/-- Strict data-only export of runtime metadata; its contract version is always the current
one. -/
structure V1RuntimeMetadataSnapshot where
  workflowRun : V1.WorkflowRun
  taskRuns : List V1.TaskRun
  taskAttempts : List V1.TaskAttempt
  externalRuns : List V1.ExternalRunRef

namespace V1RuntimeMetadataSnapshot

/-- `V1_TO_V2_MIGRATION_CONTRACT_VERSION`. -/
def contractVersion : String := "1"

def contract : String := "pyworkflowkit.v1_runtime_metadata"

/-- The order of the exported attempts. -/
def attemptOrder (value : V1.TaskAttempt) : String ×ₗ Nat :=
  toLex (value.taskRunId.str, value.attemptNumber)

/-- `to_payload`. -/
def toPayload (snapshot : V1RuntimeMetadataSnapshot) : Except PyError JsonValue := do
  let workflowRun ← exportV1WorkflowRun snapshot.workflowRun
  let taskRuns := (sortBy (fun value => value.taskRunId.str) snapshot.taskRuns).map
    exportV1TaskRun
  let taskAttempts ← gather ((sortBy attemptOrder snapshot.taskAttempts).map exportV1TaskAttempt)
  let externalRuns ← gather
    ((sortBy (fun value => value.externalRefId.value) snapshot.externalRuns).map
      exportV1ExternalRun)
  .ok (.mapping [
    ("contract", .str contract),
    ("contract_version", .str contractVersion),
    ("workflow_run", .mapping workflowRun),
    ("task_runs", .tuple (taskRuns.map .mapping)),
    ("task_attempts", .tuple (taskAttempts.map .mapping)),
    ("external_runs", .tuple (externalRuns.map .mapping)),
    ("external_run_attempt_ownership", .null)])

/-- `to_json`. -/
def toJson (snapshot : V1RuntimeMetadataSnapshot) : Except PyError String :=
  snapshot.toPayload.map canonicalJsonText

/-- The records of a list field, each imported. -/
def importAll {α : Type} (importOne : Body → Except PyError α) (fieldName : String)
    (items : List JsonValue) : Except PyError (List α) :=
  gather (items.map fun value => (requireObject value fieldName) >>= importOne)

/-- The checks of `from_json` on the top of the decoded payload. -/
def requireContract (data : Body) : Except PyError Unit :=
  if ¬SameFields data payloadFields then
    .error (.valueError "V1 runtime metadata payload fields do not match contract")
  else do
    let named ← item data "contract"
    let version ← item data "contract_version"
    let ownership ← item data "external_run_attempt_ownership"
    if named ≠ .str contract then
      .error (.valueError "unsupported V1 runtime metadata contract")
    else if version ≠ .str contractVersion then
      .error (.valueError "unsupported V1 runtime metadata contract version")
    else if ownership ≠ .null then
      .error (.valueError
        "V1 runtime metadata must not invent ExternalRunRef TaskAttempt ownership")
    else .ok ()

/-- What `from_json` makes of the decoded payload. -/
def fromPayload (readers : TextReaders) (payload : JsonValue) :
    Except PyError V1RuntimeMetadataSnapshot :=
  match payload with
  | .mapping data => do
      requireContract data
      let workflowRun ← requireObject (← item data "workflow_run") "workflow_run" >>=
        importV1WorkflowRun readers
      let taskRuns ← requireList (← item data "task_runs") "task_runs" >>=
        importAll (importV1TaskRun readers) "task_run"
      let taskAttempts ← requireList (← item data "task_attempts") "task_attempts" >>=
        importAll (importV1TaskAttempt readers) "task_attempt"
      let externalRuns ← requireList (← item data "external_runs") "external_runs" >>=
        importAll importV1ExternalRun "external_run"
      .ok ⟨workflowRun, taskRuns, taskAttempts, externalRuns⟩
  | _ => .error (.valueError "V1 runtime metadata payload must be an object")

/-- `from_json`. -/
def fromJson (readers : TextReaders) (payload : String) :
    Except PyError V1RuntimeMetadataSnapshot :=
  readers.loads payload >>= fromPayload readers

end V1RuntimeMetadataSnapshot

section Fields

/-- A lookup does not see in which order distinct keys stand. -/
theorem lookup_of_perm {body members : Body} (hperm : body.Perm members)
    (hnodup : (members.map Prod.fst).Nodup) (key : String) :
    body.lookup key = members.lookup key := by
  have hbody : (body.map Prod.fst).Nodup := (hperm.map Prod.fst).nodup_iff.mpr hnodup
  ext value
  rw [Serialization.lookup_eq_some_iff hbody, Serialization.lookup_eq_some_iff hnodup,
    hperm.mem_iff]

theorem item_of_perm {body members : Body} (hperm : body.Perm members)
    (hnodup : (members.map Prod.fst).Nodup) (key : String) :
    item body key = item members key := by
  rw [item, item, lookup_of_perm hperm hnodup]

theorem sameFields_of_perm {body members : Body} (hperm : body.Perm members) :
    SameFields body (members.map Prod.fst) := by
  constructor
  · intro member hmember
    exact List.mem_map_of_mem (hperm.mem_iff.mp hmember)
  · intro key hkey
    exact (hperm.map Prod.fst).mem_iff.mpr hkey

theorem nodup_workflowRunFields : workflowRunFields.Nodup := by
  decide

theorem nodup_taskRunFields : taskRunFields.Nodup := by
  decide

theorem nodup_taskAttemptFields : taskAttemptFields.Nodup := by
  decide

theorem nodup_externalRunFields : externalRunFields.Nodup := by
  decide

theorem nodup_payloadFields : payloadFields.Nodup := by
  decide

theorem item_cons (key wanted : String) (value : JsonValue) (rest : Body) :
    item ((key, value) :: rest) wanted = if wanted = key then .ok value else item rest wanted := by
  rw [item, List.lookup_cons]
  by_cases hkey : wanted = key
  · rw [if_pos hkey, beq_iff_eq.mpr hkey]
  · rw [if_neg hkey, beq_eq_false_iff_ne.mpr hkey]
    rfl

theorem string_value (text : Text) (fieldName : String) :
    string (.str text.value) fieldName = .ok text := by
  rw [string, Text.ofString?_value]

theorem isoText_not_blank (at_ : DateTime) : isBlank at_.isoText = false := by
  have hletter : isSpace 'T' = false := by decide
  rw [isBlank, DateTime.isoText, String.toList_ofList, List.all_append, List.all_cons, hletter,
    Bool.false_and, Bool.and_false]

variable (readers : TextReaders)

theorem fromIsoformat_isoText (at_ : DateTime) :
    readers.fromIsoformat at_.isoText = .ok (.aware at_) := by
  rw [TextReaders.fromIsoformat, readIso_isoText, Option.filter_some,
    if_pos (decide_eq_true rfl)]

/-- An exported datetime is read back. -/
theorem datetimeOrNone_iso (value : Option DateTime) (fieldName : String) :
    datetimeOrNone readers (iso value) fieldName = .ok value := by
  cases value with
  | none => rfl
  | some at_ =>
      have hraw := string_value ⟨at_.isoText, isoText_not_blank at_⟩ fieldName
      simp only [iso, datetimeOrNone, hraw, bind, Except.bind, fromIsoformat_isoText readers]

/-- An exported text that may be absent is read back. -/
theorem optionalString_text (value : Option Text) (fieldName : String) :
    optionalString (optionalJson (value.map Text.value)) fieldName = .ok value := by
  cases value with
  | none => rfl
  | some text =>
      simp only [Option.map_some, optionalJson, optionalString, string_value]
      rfl

/-- An exported string is accepted back unless it is blank. -/
theorem optionalString_optionalJson {value : Option String} {fieldName : String}
    {read : Option Text} (hread : optionalString (optionalJson value) fieldName = .ok read) :
    read.map Text.value = value := by
  cases value with
  | none => cases hread; rfl
  | some text =>
      obtain ⟨found, hfound, rfl⟩ := map_eq_ok hread
      cases htext : Text.ofString? text with
      | none => simp [optionalJson, string, htext] at hfound
      | some accepted =>
          simp only [optionalJson, string, htext, Except.ok.injEq] at hfound
          subst hfound
          exact congrArg some (Text.value_of_ofString? htext)

theorem member_value {α : Type} [StrEnum α] (enumName : String) {found : α} {text : Text}
    (htext : text.value = StrEnum.value found) : member enumName text = .ok found := by
  rw [member, htext, StrEnum.parse?_value]

end Fields

section Records

variable (readers : TextReaders)

/-- The object that the plain form of a normalised mapping is. -/
theorem exists_of_portableMapping {value : V1.Objects} {path : String} {portable : JsonValue}
    (hportable : portableMapping value path = .ok portable) :
    ∃ members, portable = .mapping members ∧
      normalizeJsonValue path (dictObject value) = .ok (.mapping members) := by
  obtain ⟨json, hjson, hmapping⟩ := bind_eq_ok hportable
  cases json with
  | mapping members =>
      cases hmapping
      exact ⟨members, rfl, hjson⟩
  | _ => cases hmapping

/-- A task run is read back from its record. -/
theorem importV1TaskRun_of_perm {body : Body} {value : V1.TaskRun}
    (hperm : body.Perm (exportV1TaskRun value)) : importV1TaskRun readers body = .ok value := by
  have hfields : requireFields body taskRunFields "task_run" = .ok () :=
    if_pos (sameFields_of_perm hperm)
  have hitem := item_of_perm hperm nodup_taskRunFields
  have hstatusBlank : isBlank value.status.value = false := by
    cases value.status <;> decide
  have hstatus := string_value ⟨value.status.value, hstatusBlank⟩ "status"
  have hfound : member "TaskRunStatus" ⟨value.status.value, hstatusBlank⟩ = .ok value.status :=
    member_value _ rfl
  have hskip : (optionalString (optionalJson (value.skipReason.map V1.SkipReason.value))
      "skip_reason" >>= fun text => text.mapM (member "SkipReason")) = .ok value.skipReason := by
    cases value.skipReason with
    | none => rfl
    | some reason =>
        have hreason : isBlank reason.value = false := by
          cases reason <;> decide
        have hread := optionalString_text (some ⟨reason.value, hreason⟩) "skip_reason"
        have hmember : member "SkipReason" ⟨reason.value, hreason⟩ = .ok reason :=
          member_value _ rfl
        simp only [Option.map_some] at hread ⊢
        rw [hread]
        change (member "SkipReason" _).map some = _
        rw [hmember]
        rfl
  rw [importV1TaskRun, hfields]
  have htaskRunId : string (.str value.taskRunId.str) "task_run_id" = .ok value.taskRunId.value :=
    string_value _ _
  have hrunId : string (.str value.runId.str) "run_id" = .ok value.runId.value :=
    string_value _ _
  obtain ⟨text, htext, hreason⟩ := bind_eq_ok hskip
  simp only [hitem, exportV1TaskRun, item_cons, String.reduceEq, if_true, if_false, bind,
    Except.bind, htaskRunId, hrunId, string_value, hstatus, hfound, htext, hreason,
    datetimeOrNone_iso]
  exact dif_pos value.fits

/-- The mapping that an import makes of a normalised one. -/
def Normalised (path : String) (value restored : V1.Objects) : Prop :=
  ∃ members, normalizeJsonValue path (dictObject value) = .ok (.mapping members) ∧
    restored = objects members

/-- A workflow run is read back from its record, its parameters normalised. -/
theorem importV1WorkflowRun_of_perm {body members : Body} {value : V1.WorkflowRun}
    (hexport : exportV1WorkflowRun value = .ok members) (hperm : body.Perm members) :
    ∃ restored, importV1WorkflowRun readers body = .ok restored ∧
      ∃ parameters, Normalised "workflow_run.parameters" value.parameters parameters ∧
        restored = { value with parameters := parameters } := by
  obtain ⟨portable, hportable, hmembers⟩ := bind_eq_ok hexport
  obtain ⟨parameters, rfl, hnormalised⟩ := exists_of_portableMapping hportable
  cases hmembers
  have hfields : requireFields body workflowRunFields "workflow_run" = .ok () :=
    if_pos (sameFields_of_perm hperm)
  have hitem := item_of_perm hperm nodup_workflowRunFields
  have hblank : isBlank value.status.value = false := by
    cases value.status <;> decide
  have hstatus := string_value ⟨value.status.value, hblank⟩ "status"
  have hfound : member "WorkflowRunStatus" ⟨value.status.value, hblank⟩ = .ok value.status :=
    member_value _ rfl
  have hrunId : string (.str value.runId.str) "run_id" = .ok value.runId.value :=
    string_value _ _
  refine ⟨{ value with parameters := objects parameters }, ?_, _, ⟨parameters, hnormalised, rfl⟩,
    rfl⟩
  rw [importV1WorkflowRun, hfields]
  simp only [hitem, item_cons, String.reduceEq, if_true, if_false, bind, Except.bind, hrunId,
    string_value, hstatus, hfound, requireObject, datetimeOrNone_iso]
  exact dif_pos value.fits

/-- An external reference is read back from its record, its metadata normalised. -/
theorem importV1ExternalRun_of_perm {body members : Body} {value : V1.ExternalRunRef}
    (hexport : exportV1ExternalRun value = .ok members) (hperm : body.Perm members) :
    ∃ restored, importV1ExternalRun body = .ok restored ∧
      ∃ metadata, Normalised "external_run.metadata" value.metadata metadata ∧
        restored = { value with metadata := metadata } := by
  obtain ⟨portable, hportable, hmembers⟩ := bind_eq_ok hexport
  obtain ⟨metadata, rfl, hnormalised⟩ := exists_of_portableMapping hportable
  cases hmembers
  have hfields : requireFields body externalRunFields "external_run" = .ok () :=
    if_pos (sameFields_of_perm hperm)
  have hitem := item_of_perm hperm nodup_externalRunFields
  refine ⟨{ value with metadata := objects metadata }, ?_, _, ⟨metadata, hnormalised, rfl⟩, rfl⟩
  rw [importV1ExternalRun, hfields]
  simp only [hitem, item_cons, String.reduceEq, if_true, if_false, bind, Except.bind,
    string_value, optionalString_text, requireObject]

/-- None of the optional strings of the attempt is blank. -/
def StringsNotBlank (value : V1.TaskAttempt) : Prop :=
  ∀ held ∈ [value.errorType, value.errorMessage, value.errorCategory], ∀ text ∈ held,
    isBlank text = false

/-- An optional string that is not blank is accepted back. -/
theorem exists_optionalString {value : Option String} (hblank : ∀ text ∈ value, isBlank text = false)
    (fieldName : String) :
    ∃ read, optionalString (optionalJson value) fieldName = .ok read ∧
      read.map Text.value = value := by
  cases value with
  | none => exact ⟨none, rfl, rfl⟩
  | some text =>
      exact ⟨some ⟨text, hblank text rfl⟩, optionalString_text (some ⟨text, hblank text rfl⟩) _,
        rfl⟩

/-- Of the record of an attempt, only the optional strings may be refused. -/
theorem importV1TaskAttempt_eq {body members : Body} {value : V1.TaskAttempt}
    (hexport : exportV1TaskAttempt value = .ok members) (hperm : body.Perm members) :
    ∃ metadata, Normalised "task_attempt.error_metadata" value.errorMetadata metadata ∧
      importV1TaskAttempt readers body = (do
        let errorType ← optionalString (optionalJson value.errorType) "error_type"
        let errorMessage ← optionalString (optionalJson value.errorMessage) "error_message"
        let errorCategory ← optionalString (optionalJson value.errorCategory) "error_category"
        newTaskAttempt value.attemptId.value value.taskRunId.value value.attemptNumber value.status
          value.startedAt value.finishedAt errorType errorMessage errorCategory
          value.retryEligibleAt metadata) := by
  obtain ⟨portable, hportable, hmembers⟩ := bind_eq_ok hexport
  obtain ⟨metadata, rfl, hnormalised⟩ := exists_of_portableMapping hportable
  cases hmembers
  have hfields : requireFields body taskAttemptFields "task_attempt" = .ok () :=
    if_pos (sameFields_of_perm hperm)
  have hitem := item_of_perm hperm nodup_taskAttemptFields
  have hblank : isBlank value.status.value = false := by
    cases value.status <;> decide
  have hstatus := string_value ⟨value.status.value, hblank⟩ "status"
  have hfound : member "TaskAttemptStatus" ⟨value.status.value, hblank⟩ = .ok value.status :=
    member_value _ rfl
  have hattemptId : string (.str value.attemptId.str) "attempt_id" = .ok value.attemptId.value :=
    string_value _ _
  have htaskRunId : string (.str value.taskRunId.str) "task_run_id" = .ok value.taskRunId.value :=
    string_value _ _
  refine ⟨objects metadata, ⟨metadata, hnormalised, rfl⟩, ?_⟩
  rw [importV1TaskAttempt, hfields]
  simp only [hitem, item_cons, String.reduceEq, if_true, if_false, bind, Except.bind, hattemptId,
    htaskRunId, requireInteger, hstatus, hfound, requireObject, datetimeOrNone_iso]

/-- An attempt without blank strings is read back from its record, its metadata normalised. -/
theorem importV1TaskAttempt_of_perm {body members : Body} {value : V1.TaskAttempt}
    (hexport : exportV1TaskAttempt value = .ok members) (hperm : body.Perm members)
    (hstrings : StringsNotBlank value) :
    ∃ restored, importV1TaskAttempt readers body = .ok restored ∧
      ∃ metadata, Normalised "task_attempt.error_metadata" value.errorMetadata metadata ∧
        restored = { value with errorMetadata := metadata } := by
  obtain ⟨metadata, hnormalised, heq⟩ := importV1TaskAttempt_eq readers hexport hperm
  obtain ⟨errorType, htype, htypeValue⟩ :=
    exists_optionalString (hstrings value.errorType (by simp)) "error_type"
  obtain ⟨errorMessage, hmessage, hmessageValue⟩ :=
    exists_optionalString (hstrings value.errorMessage (by simp)) "error_message"
  obtain ⟨errorCategory, hcategory, hcategoryValue⟩ :=
    exists_optionalString (hstrings value.errorCategory (by simp)) "error_category"
  refine ⟨{ value with errorMetadata := metadata }, ?_, metadata, hnormalised, rfl⟩
  simp only [heq, htype, hmessage, hcategory, bind, Except.bind, newTaskAttempt,
    Int.toNat_natCast, dif_pos value.positive, dif_pos value.fits, htypeValue, hmessageValue,
    hcategoryValue]

/-- An attempt that is read back has no blank strings. -/
theorem stringsNotBlank_of_import {body members : Body} {value restored : V1.TaskAttempt}
    (hexport : exportV1TaskAttempt value = .ok members) (hperm : body.Perm members)
    (himport : importV1TaskAttempt readers body = .ok restored) : StringsNotBlank value := by
  obtain ⟨metadata, -, heq⟩ := importV1TaskAttempt_eq readers hexport hperm
  rw [heq] at himport
  obtain ⟨errorType, htype, himport⟩ := bind_eq_ok himport
  obtain ⟨errorMessage, hmessage, himport⟩ := bind_eq_ok himport
  obtain ⟨errorCategory, hcategory, -⟩ := bind_eq_ok himport
  have hread : ∀ {held : Option String} {read : Option Text}, read.map Text.value = held →
      ∀ text ∈ held, isBlank text = false := by
    rintro held read rfl text htext
    obtain ⟨found, -, rfl⟩ := Option.map_eq_some_iff.mp htext
    exact found.notBlank
  simp only [StringsNotBlank, List.forall_mem_cons, List.not_mem_nil, false_implies,
    implies_true, and_true]
  exact ⟨hread (optionalString_optionalJson htype), hread (optionalString_optionalJson hmessage),
    hread (optionalString_optionalJson hcategory)⟩

end Records

section KeyOrder

variable {floats : FloatTexts}

mutual

/-- A canonical value is in key order already. -/
theorem inKeyOrder_of_canonical (value : JsonValue) (hcanonical : value.Canonical floats) :
    inKeyOrder value = value := by
  match value with
  | .mapping members =>
      obtain ⟨hsorted, hmembers⟩ := hcanonical
      rw [inKeyOrder, membersInKeyOrder_of_canonical members hmembers,
        sortBy_eq_self Prod.fst (hsorted.imp le_of_lt)]
  | .tuple items => rw [inKeyOrder, itemsInKeyOrder_of_canonical items hcanonical]
  | .null => rfl
  | .bool _ => rfl
  | .int _ => rfl
  | .float _ => rfl
  | .str _ => rfl

theorem itemsInKeyOrder_of_canonical (items : List JsonValue)
    (hcanonical : CanonicalItems floats items) : itemsInKeyOrder items = items := by
  match items with
  | [] => rfl
  | item :: rest =>
      rw [itemsInKeyOrder, inKeyOrder_of_canonical item hcanonical.1,
        itemsInKeyOrder_of_canonical rest hcanonical.2]

theorem membersInKeyOrder_of_canonical (members : List (String × JsonValue))
    (hcanonical : CanonicalMembers floats members) : membersInKeyOrder members = members := by
  match members with
  | [] => rfl
  | (key, value) :: rest =>
      rw [membersInKeyOrder, inKeyOrder_of_canonical value hcanonical.1,
        membersInKeyOrder_of_canonical rest hcanonical.2]

end

/-- A mapping is canonical in key order when its values are and its keys are distinct. -/
theorem canonical_mapping {members : Body} (hnodup : (members.map Prod.fst).Nodup)
    (hvalues : ∀ member ∈ members, (inKeyOrder member.2).Canonical floats) :
    (inKeyOrder (.mapping members)).Canonical floats := by
  rw [inKeyOrder]
  refine ⟨sortBy_pairwise_lt Prod.fst ?_, ?_⟩
  · rw [map_fst_membersInKeyOrder]
    exact hnodup
  · rw [canonicalMembers_iff]
    intro member hmember
    rw [mem_sortBy, membersInKeyOrder_eq_map, List.mem_map] at hmember
    obtain ⟨source, hsource, rfl⟩ := hmember
    exact hvalues source hsource

theorem itemsInKeyOrder_eq_map (items : List JsonValue) :
    itemsInKeyOrder items = items.map inKeyOrder := by
  induction items with
  | nil => rfl
  | cons first rest ih => rw [itemsInKeyOrder, ih, List.map_cons]

theorem canonical_tuple {items : List JsonValue}
    (hitems : ∀ item ∈ items, (inKeyOrder item).Canonical floats) :
    (inKeyOrder (.tuple items)).Canonical floats := by
  rw [inKeyOrder, itemsInKeyOrder_eq_map]
  apply (canonicalItems_iff _).mpr
  intro item hitem
  obtain ⟨source, hsource, rfl⟩ := List.mem_map.mp hitem
  exact hitems source hsource

/-- A record whose values are canonical and whose keys are distinct. -/
def CanonicalRecord (floats : FloatTexts) (members : Body) : Prop :=
  (members.map Prod.fst).Nodup ∧ CanonicalMembers floats members

/-- A record in key order, as an import finds it. -/
def inOrder (members : Body) : Body :=
  sortBy Prod.fst (membersInKeyOrder members)

theorem CanonicalRecord.perm {members : Body} (hrecord : CanonicalRecord floats members) :
    (inOrder members).Perm members := by
  rw [inOrder, membersInKeyOrder_of_canonical members hrecord.2]
  exact sortBy_perm _ _

theorem CanonicalRecord.mapping {members : Body} (hrecord : CanonicalRecord floats members) :
    (inKeyOrder (.mapping members)).Canonical floats := by
  apply canonical_mapping hrecord.1
  intro member hmember
  have hcanonical := (canonicalMembers_iff members).mp hrecord.2 member hmember
  rw [inKeyOrder_of_canonical _ hcanonical]
  exact hcanonical

theorem canonical_iso (value : Option DateTime) : (iso value).Canonical floats := by
  cases value <;> trivial

theorem canonical_optionalJson (value : Option String) :
    (optionalJson value).Canonical floats := by
  cases value <;> trivial

theorem canonical_portableMapping {value : V1.Objects} {path : String} {portable : JsonValue}
    (hreprs : (dictObject value).Reprs floats)
    (hportable : portableMapping value path = .ok portable) : portable.Canonical floats := by
  obtain ⟨members, rfl, hnormalised⟩ := exists_of_portableMapping hportable
  exact canonical_of_normalize path _ hreprs hnormalised

theorem canonicalRecord_exportV1WorkflowRun {value : V1.WorkflowRun} {members : Body}
    (hreprs : (dictObject value.parameters).Reprs floats)
    (hexport : exportV1WorkflowRun value = .ok members) : CanonicalRecord floats members := by
  obtain ⟨portable, hportable, hmembers⟩ := bind_eq_ok hexport
  cases hmembers
  exact ⟨nodup_workflowRunFields, trivial, trivial, trivial, trivial, canonical_portableMapping hreprs hportable,
    canonical_iso _, canonical_iso _, canonical_iso _, trivial⟩

theorem canonicalRecord_exportV1TaskRun (value : V1.TaskRun) :
    CanonicalRecord floats (exportV1TaskRun value) := by
  exact ⟨nodup_taskRunFields, trivial, trivial, trivial, trivial, canonical_optionalJson _, canonical_iso _,
    canonical_iso _, canonical_iso _, trivial⟩

theorem canonicalRecord_exportV1TaskAttempt {value : V1.TaskAttempt} {members : Body}
    (hreprs : (dictObject value.errorMetadata).Reprs floats)
    (hexport : exportV1TaskAttempt value = .ok members) : CanonicalRecord floats members := by
  obtain ⟨portable, hportable, hmembers⟩ := bind_eq_ok hexport
  cases hmembers
  exact ⟨nodup_taskAttemptFields, trivial, trivial, trivial, trivial, canonical_iso _, canonical_iso _,
    canonical_optionalJson _, canonical_optionalJson _, canonical_optionalJson _,
    canonical_iso _, canonical_portableMapping hreprs hportable, trivial⟩

theorem canonicalRecord_exportV1ExternalRun {value : V1.ExternalRunRef} {members : Body}
    (hreprs : (dictObject value.metadata).Reprs floats)
    (hexport : exportV1ExternalRun value = .ok members) : CanonicalRecord floats members := by
  obtain ⟨portable, hportable, hmembers⟩ := bind_eq_ok hexport
  cases hmembers
  exact ⟨nodup_externalRunFields, trivial, trivial, trivial, canonical_optionalJson _,
    canonical_portableMapping hreprs hportable, trivial⟩

end KeyOrder

section Lists

variable {α : Type} {floats : FloatTexts} {exports : α → Body → Prop}
  {importOne : Body → Except PyError α} {values : List α} {bodies : List Body}

/-- Exported records, in key order, are imported one by one. -/
theorem exists_importAll {restores : α → α → Prop} (fieldName : String)
    (hexports : List.Forall₂ exports values bodies)
    (hone : ∀ value ∈ values, ∀ body, exports value body →
      ∃ restored, importOne (inOrder body) = .ok restored ∧ restores value restored) :
    ∃ restored, V1RuntimeMetadataSnapshot.importAll importOne fieldName
        (bodies.map fun body => inKeyOrder (.mapping body)) = .ok restored ∧
      List.Forall₂ restores values restored := by
  induction hexports with
  | nil => exact ⟨[], rfl, List.Forall₂.nil⟩
  | cons hfirst _ ih =>
      obtain ⟨first, himport, hfirstRestores⟩ := hone _ List.mem_cons_self _ hfirst
      obtain ⟨rest, hrest, hrestRestores⟩ := ih fun value hvalue =>
        hone value (List.mem_cons_of_mem _ hvalue)
      refine ⟨first :: rest, ?_, List.Forall₂.cons hfirstRestores hrestRestores⟩
      have hhead : (requireObject (inKeyOrder (.mapping _)) fieldName >>= importOne) =
          .ok first := himport
      rw [V1RuntimeMetadataSnapshot.importAll] at hrest ⊢
      rw [List.map_cons, List.map_cons, gather, hhead, hrest]
      rfl

/-- When all records are imported, each of them is. -/
theorem importOne_of_importAll {fieldName : String} {restored : List α}
    (hexports : List.Forall₂ exports values bodies)
    (himport : V1RuntimeMetadataSnapshot.importAll importOne fieldName
      (bodies.map fun body => inKeyOrder (.mapping body)) = .ok restored) :
    ∀ value ∈ values, ∃ body found, exports value body ∧ importOne (inOrder body) = .ok found := by
  induction hexports generalizing restored with
  | nil => simp
  | cons hfirst _ ih =>
      rw [V1RuntimeMetadataSnapshot.importAll, List.map_cons, List.map_cons, gather] at himport
      obtain ⟨first, hhead, himport⟩ := bind_eq_ok himport
      obtain ⟨rest, htail, -⟩ := bind_eq_ok himport
      rw [List.forall_mem_cons]
      exact ⟨⟨_, first, hfirst, hhead⟩, ih htail⟩

end Lists

namespace V1RuntimeMetadataSnapshot

/-- Every float of the snapshot is written by its `repr`. -/
structure Reprs (floats : FloatTexts) (snapshot : V1RuntimeMetadataSnapshot) : Prop where
  parameters : (dictObject snapshot.workflowRun.parameters).Reprs floats
  errorMetadata : ∀ value ∈ snapshot.taskAttempts, (dictObject value.errorMetadata).Reprs floats
  metadata : ∀ value ∈ snapshot.externalRuns, (dictObject value.metadata).Reprs floats

/-- The second snapshot is the first up to the order and the normalisation of the payload. -/
structure Restores (snapshot restored : V1RuntimeMetadataSnapshot) : Prop where
  workflowRun : ∃ parameters,
    Normalised "workflow_run.parameters" snapshot.workflowRun.parameters parameters ∧
      restored.workflowRun = { snapshot.workflowRun with parameters := parameters }
  taskRuns : restored.taskRuns = sortBy (fun value => value.taskRunId.str) snapshot.taskRuns
  taskAttempts : List.Forall₂ (fun value found => ∃ metadata,
      Normalised "task_attempt.error_metadata" value.errorMetadata metadata ∧
        found = { value with errorMetadata := metadata })
    (sortBy attemptOrder snapshot.taskAttempts) restored.taskAttempts
  externalRuns : List.Forall₂ (fun value found => ∃ metadata,
      Normalised "external_run.metadata" value.metadata metadata ∧
        found = { value with metadata := metadata })
    (sortBy (fun value => value.externalRefId.value) snapshot.externalRuns)
    restored.externalRuns

/-- The records of a payload. -/
structure Records (snapshot : V1RuntimeMetadataSnapshot) (floats : FloatTexts)
    (workflowRun : Body) (taskAttempts externalRuns : List Body) : Prop where
  workflowRun : exportV1WorkflowRun snapshot.workflowRun = .ok workflowRun ∧
    CanonicalRecord floats workflowRun
  taskAttempts : List.Forall₂ (fun value body => exportV1TaskAttempt value = .ok body ∧
      CanonicalRecord floats body)
    (sortBy attemptOrder snapshot.taskAttempts) taskAttempts
  externalRuns : List.Forall₂ (fun value body => exportV1ExternalRun value = .ok body ∧
      CanonicalRecord floats body)
    (sortBy (fun value => value.externalRefId.value) snapshot.externalRuns) externalRuns

/-- The records of the task runs. -/
def taskRunRecords (snapshot : V1RuntimeMetadataSnapshot) : List Body :=
  (sortBy (fun value => value.taskRunId.str) snapshot.taskRuns).map exportV1TaskRun

/-- The members of a payload. -/
def payloadMembers (snapshot : V1RuntimeMetadataSnapshot) (workflowRun : Body)
    (taskAttempts externalRuns : List Body) : Body :=
  [("contract", .str contract),
    ("contract_version", .str contractVersion),
    ("workflow_run", .mapping workflowRun),
    ("task_runs", .tuple (snapshot.taskRunRecords.map .mapping)),
    ("task_attempts", .tuple (taskAttempts.map .mapping)),
    ("external_runs", .tuple (externalRuns.map .mapping)),
    ("external_run_attempt_ownership", .null)]

variable {snapshot : V1RuntimeMetadataSnapshot} {floats : FloatTexts}

/-- The exported records of a list, each with what is known of it. -/
theorem forall₂_exports {α : Type} {exportOne : α → Except PyError Body} {values : List α}
    {bodies : List Body} (hbodies : gather (values.map exportOne) = .ok bodies)
    (hone : ∀ value ∈ values, ∀ body, exportOne value = .ok body → CanonicalRecord floats body) :
    List.Forall₂ (fun value body => exportOne value = .ok body ∧ CanonicalRecord floats body)
      values bodies := by
  have hall := forall₂_of_gather hbodies
  rw [List.forall₂_map_left_iff] at hall
  clear hbodies
  induction hall with
  | nil => exact List.Forall₂.nil
  | cons hfirst _ ih =>
      rw [List.forall_mem_cons] at hone
      exact List.Forall₂.cons ⟨hfirst, hone.1 _ hfirst⟩ (ih hone.2)

theorem exists_records {payload : JsonValue} (hreprs : snapshot.Reprs floats)
    (hpayload : snapshot.toPayload = .ok payload) :
    ∃ workflowRun taskAttempts externalRuns,
      snapshot.Records floats workflowRun taskAttempts externalRuns ∧
        payload = .mapping (snapshot.payloadMembers workflowRun taskAttempts externalRuns) := by
  obtain ⟨workflowRun, hworkflowRun, hpayload⟩ := bind_eq_ok hpayload
  obtain ⟨taskAttempts, hattempts, hpayload⟩ := bind_eq_ok hpayload
  obtain ⟨externalRuns, hexternalRuns, hpayload⟩ := bind_eq_ok hpayload
  cases hpayload
  refine ⟨workflowRun, taskAttempts, externalRuns, ⟨⟨hworkflowRun, ?_⟩, ?_, ?_⟩, rfl⟩
  · exact canonicalRecord_exportV1WorkflowRun hreprs.parameters hworkflowRun
  · apply forall₂_exports hattempts
    intro value hvalue body hexport
    rw [mem_sortBy] at hvalue
    exact canonicalRecord_exportV1TaskAttempt (hreprs.errorMetadata value hvalue) hexport
  · apply forall₂_exports hexternalRuns
    intro value hvalue body hexport
    rw [mem_sortBy] at hvalue
    exact canonicalRecord_exportV1ExternalRun (hreprs.metadata value hvalue) hexport

variable {workflowRun : Body} {taskAttempts externalRuns : List Body}

theorem canonical_records {bodies : List Body}
    (hbodies : ∀ body ∈ bodies, CanonicalRecord floats body) :
    (inKeyOrder (.tuple (bodies.map .mapping))).Canonical floats := by
  apply canonical_tuple
  intro item hitem
  obtain ⟨body, hbody, rfl⟩ := List.mem_map.mp hitem
  exact (hbodies body hbody).mapping

/-- Every task run has its record. -/
theorem forall₂_taskRunRecords (floats : FloatTexts) (snapshot : V1RuntimeMetadataSnapshot) :
    List.Forall₂ (fun value body => exportV1TaskRun value = body ∧ CanonicalRecord floats body)
      (sortBy (fun value => value.taskRunId.str) snapshot.taskRuns) snapshot.taskRunRecords := by
  rw [taskRunRecords, List.forall₂_map_right_iff, List.forall₂_same]
  intro value _
  exact ⟨rfl, canonicalRecord_exportV1TaskRun value⟩

/-- The payload of a snapshot is canonical once its keys are sorted. -/
theorem Records.canonical (hrecords : snapshot.Records floats workflowRun taskAttempts externalRuns) :
    (inKeyOrder (.mapping (snapshot.payloadMembers workflowRun taskAttempts
      externalRuns))).Canonical floats := by
  have htaskRuns : ∀ body ∈ snapshot.taskRunRecords, CanonicalRecord floats body := by
    intro body hbody
    obtain ⟨_, _, -, hcanonical⟩ :=
      exists_of_forall₂_right (forall₂_taskRunRecords floats snapshot) hbody
    exact hcanonical
  have hattempts : ∀ body ∈ taskAttempts, CanonicalRecord floats body := by
    intro body hbody
    obtain ⟨_, _, -, hcanonical⟩ := exists_of_forall₂_right hrecords.taskAttempts hbody
    exact hcanonical
  have hexternalRuns : ∀ body ∈ externalRuns, CanonicalRecord floats body := by
    intro body hbody
    obtain ⟨_, _, -, hcanonical⟩ := exists_of_forall₂_right hrecords.externalRuns hbody
    exact hcanonical
  apply canonical_mapping
  · exact nodup_payloadFields
  · simp only [payloadMembers, List.forall_mem_cons, List.not_mem_nil, false_implies,
      implies_true, and_true]
    exact ⟨trivial, trivial, hrecords.workflowRun.2.mapping, canonical_records htaskRuns,
      canonical_records hattempts, canonical_records hexternalRuns, trivial⟩

/-- The text of a payload is loaded as the payload in key order. -/
theorem Records.loads {readers : TextReaders}
    (hrecords : snapshot.Records readers.floats workflowRun taskAttempts externalRuns) :
    readers.loads (canonicalJsonText (.mapping (snapshot.payloadMembers workflowRun taskAttempts
      externalRuns))) =
      .ok (inKeyOrder (.mapping (snapshot.payloadMembers workflowRun taskAttempts
        externalRuns))) := by
  rw [TextReaders.loads, ← canonicalJsonText_inKeyOrder,
    loadsCanonical_canonical hrecords.canonical]

theorem inKeyOrder_records (bodies : List Body) :
    inKeyOrder (.tuple (bodies.map .mapping)) =
      .tuple (bodies.map fun body => inKeyOrder (.mapping body)) := by
  rw [inKeyOrder, itemsInKeyOrder_eq_map, List.map_map]
  rfl

/-- What the import makes of the members of a payload, in whatever order. -/
theorem fromPayload_of_perm (readers : TextReaders) {data : Body}
    (hperm : data.Perm (membersInKeyOrder
      (snapshot.payloadMembers workflowRun taskAttempts externalRuns))) :
    fromPayload readers (.mapping data) = (do
      let workflowRun ← importV1WorkflowRun readers (inOrder workflowRun)
      let taskRuns ← importAll (importV1TaskRun readers) "task_run"
        (snapshot.taskRunRecords.map fun body => inKeyOrder (.mapping body))
      let taskAttempts ← importAll (importV1TaskAttempt readers) "task_attempt"
        (taskAttempts.map fun body => inKeyOrder (.mapping body))
      let externalRuns ← importAll importV1ExternalRun "external_run"
        (externalRuns.map fun body => inKeyOrder (.mapping body))
      .ok ⟨workflowRun, taskRuns, taskAttempts, externalRuns⟩) := by
  have hitem := item_of_perm hperm nodup_payloadFields
  have hfields : SameFields data payloadFields := sameFields_of_perm hperm
  have hworkflowRun : requireObject (inKeyOrder (.mapping workflowRun)) "workflow_run" =
      .ok (inOrder workflowRun) := rfl
  rw [fromPayload, requireContract, if_neg (not_not.mpr hfields)]
  simp only [hitem, payloadMembers, membersInKeyOrder, item_cons, String.reduceEq, if_true,
    if_false, inKeyOrder_records, hworkflowRun, requireList, bind, Except.bind]
  rfl

/-- A snapshot without blank strings is restored. -/
theorem exists_fromPayload {readers : TextReaders}
    (hrecords : snapshot.Records readers.floats workflowRun taskAttempts externalRuns)
    {data : Body} (hperm : data.Perm (membersInKeyOrder
      (snapshot.payloadMembers workflowRun taskAttempts externalRuns)))
    (hstrings : ∀ value ∈ snapshot.taskAttempts, StringsNotBlank value) :
    ∃ restored, fromPayload readers (.mapping data) = .ok restored ∧
      snapshot.Restores restored := by
  obtain ⟨hexport, hcanonical⟩ := hrecords.workflowRun
  obtain ⟨workflowRun', hrun, hrunRestored⟩ :=
    importV1WorkflowRun_of_perm readers hexport hcanonical.perm
  obtain ⟨taskRuns, htaskRuns, htaskRunsRestored⟩ :
      ∃ restored, importAll (importV1TaskRun readers) "task_run"
        (snapshot.taskRunRecords.map fun body => inKeyOrder (.mapping body)) = .ok restored ∧
        List.Forall₂ (fun value found => found = value)
          (sortBy (fun value => value.taskRunId.str) snapshot.taskRuns) restored := by
    apply exists_importAll _ (forall₂_taskRunRecords readers.floats snapshot)
    rintro value - body ⟨rfl, hrecord⟩
    exact ⟨value, importV1TaskRun_of_perm readers hrecord.perm, rfl⟩
  obtain ⟨attempts, hattempts, hattemptsRestored⟩ :=
    exists_importAll "task_attempt" hrecords.taskAttempts fun value hvalue body hbody =>
      importV1TaskAttempt_of_perm readers hbody.1 hbody.2.perm
        (hstrings value ((mem_sortBy _ _ _).mp hvalue))
  obtain ⟨externals, hexternals, hexternalsRestored⟩ :=
    exists_importAll "external_run" hrecords.externalRuns fun value _ body hbody =>
      importV1ExternalRun_of_perm hbody.1 hbody.2.perm
  refine ⟨⟨workflowRun', taskRuns, attempts, externals⟩, ?_, ⟨hrunRestored, ?_,
    hattemptsRestored, hexternalsRestored⟩⟩
  · simp only [fromPayload_of_perm readers hperm, hrun, htaskRuns, hattempts, hexternals, bind,
      Except.bind]
  · have hflip := htaskRunsRestored.flip
    rwa [List.forall₂_eq_eq_eq] at hflip

/-- A snapshot that is read back has no blank strings. -/
theorem stringsNotBlank_of_fromPayload {readers : TextReaders}
    (hrecords : snapshot.Records readers.floats workflowRun taskAttempts externalRuns)
    {data : Body} (hperm : data.Perm (membersInKeyOrder
      (snapshot.payloadMembers workflowRun taskAttempts externalRuns)))
    {restored : V1RuntimeMetadataSnapshot}
    (hread : fromPayload readers (.mapping data) = .ok restored) :
    ∀ value ∈ snapshot.taskAttempts, StringsNotBlank value := by
  intro value hvalue
  rw [fromPayload_of_perm readers hperm] at hread
  obtain ⟨_, -, hread⟩ := bind_eq_ok hread
  obtain ⟨_, -, hread⟩ := bind_eq_ok hread
  obtain ⟨_, hattempts, -⟩ := bind_eq_ok hread
  obtain ⟨body, found, ⟨hexport, hrecord⟩, himport⟩ :=
    importOne_of_importAll hrecords.taskAttempts hattempts value ((mem_sortBy _ _ _).mpr hvalue)
  exact stringsNotBlank_of_import readers hexport hrecord.perm himport

/-- The text of a snapshot is read as its payload in key order. -/
theorem exists_fromJson_eq {readers : TextReaders} (hreprs : snapshot.Reprs readers.floats)
    {text : String} (htext : snapshot.toJson = .ok text) :
    ∃ workflowRun taskAttempts externalRuns data,
      snapshot.Records readers.floats workflowRun taskAttempts externalRuns ∧
      data.Perm (membersInKeyOrder
        (snapshot.payloadMembers workflowRun taskAttempts externalRuns)) ∧
      fromJson readers text = fromPayload readers (.mapping data) := by
  obtain ⟨payload, hpayload, rfl⟩ := map_eq_ok htext
  obtain ⟨workflowRun, taskAttempts, externalRuns, hrecords, rfl⟩ :=
    exists_records hreprs hpayload
  refine ⟨workflowRun, taskAttempts, externalRuns, inOrder _, hrecords, sortBy_perm _ _, ?_⟩
  rw [fromJson, hrecords.loads]
  rfl

theorem stringsNotBlank_of_fromJson {readers : TextReaders}
    (hreprs : snapshot.Reprs readers.floats) {text : String} (htext : snapshot.toJson = .ok text)
    {restored : V1RuntimeMetadataSnapshot} (hread : fromJson readers text = .ok restored) :
    ∀ value ∈ snapshot.taskAttempts, StringsNotBlank value := by
  obtain ⟨_, _, _, data, hrecords, hperm, heq⟩ := exists_fromJson_eq hreprs htext
  rw [heq] at hread
  exact stringsNotBlank_of_fromPayload hrecords hperm hread

section Failed

/-- Readers that take every number with a fraction or an exponent for a `repr`. -/
def plainReaders : TextReaders where
  floats := {
    isRepr := fun text =>
      text.toList ≠ [] ∧ text.toList.all isNumberChar = true ∧ integer text.toList = none
    numeric := fun text hrepr => by
      have hall := of_decide_eq_true hrepr
      exact ⟨hall.1, hall.2.1⟩
    fractional := fun text hrepr => (of_decide_eq_true hrepr).2.2 }
  otherJson _ := .error (.valueError "Expecting value: line 1 column 1 (char 0)")
  otherDateTimes text :=
    .error (.valueError ("Invalid isoformat string: " ++ PyError.quoted text))

/-- The moment at which everything in the fixture happens. -/
def noon : DateTime :=
  ⟨63902606400000000, 0, by decide, DateTime.offsetRange_zero⟩

/-- An attempt that failed with a message. -/
def failedAttempt (message : String) : V1.TaskAttempt where
  attemptId := ⟨.lit "attempt-1"⟩
  taskRunId := ⟨.lit "task-run-1"⟩
  attemptNumber := 1
  status := .failed
  startedAt := some noon
  finishedAt := some noon
  errorType := some "RuntimeError"
  errorMessage := some message
  errorCategory := none
  retryEligibleAt := none
  errorMetadata := [("rate", .float "0.5" true)]
  positive := Nat.one_pos
  fits := by decide

/-- A failed run with one failed attempt. -/
def failedSnapshot (message : String) : V1RuntimeMetadataSnapshot where
  workflowRun := {
    runId := ⟨.lit "run-1"⟩
    workflowId := .lit "workflow-1"
    workflowVersion := .lit "1"
    status := .failed
    parameters := []
    createdAt := some noon
    startedAt := some noon
    finishedAt := some noon
    fits := by decide }
  taskRuns := []
  taskAttempts := [failedAttempt message]
  externalRuns := []

theorem exists_toJson_failedSnapshot (message : String) :
    ∃ text, (failedSnapshot message).toJson = .ok text := by
  have hparameters : portableMapping [] "workflow_run.parameters" = .ok (.mapping []) := by
    decide +kernel
  have hmetadata : portableMapping [("rate", .float "0.5" true)] "task_attempt.error_metadata" =
      .ok (.mapping [("rate", .float "0.5")]) := by
    decide +kernel
  have hsorted : sortBy attemptOrder (failedSnapshot message).taskAttempts =
      [failedAttempt message] := sortBy_eq_self _ (List.pairwise_singleton _ _)
  rw [toJson, toPayload, hsorted]
  simp only [failedSnapshot, exportV1WorkflowRun, hparameters, List.map_cons, List.map_nil,
    exportV1TaskAttempt, failedAttempt, hmetadata, gather, bind, Except.bind]
  exact ⟨_, rfl⟩

theorem reprs_failedSnapshot (message : String) :
    (failedSnapshot message).Reprs plainReaders.floats where
  parameters := trivial
  errorMetadata := by
    intro value hvalue
    rw [List.mem_singleton.mp hvalue]
    exact ⟨fun _ => by decide +kernel, trivial⟩
  metadata := by
    intro value hvalue
    cases hvalue

end Failed

end V1RuntimeMetadataSnapshot

end PyWorkflowKit.Compat
