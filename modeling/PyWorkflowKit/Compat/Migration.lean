import PyWorkflowKit.Authoring.BuilderRuns
import PyWorkflowKit.V1.Validation

/-!
# Migration of definitions

The explicit migration of workflow and task definitions of version 1, which fails closed
where version 2 has no equivalent.
-/

namespace PyWorkflowKit.Compat

open PyWorkflowKit.Core PyWorkflowKit.Domain PyWorkflowKit.Planning
open PyWorkflowKit.Authoring (TaskArguments RegisteredWorkload defineWorkflow)
open PyWorkflowKit.Policies (TimeoutPolicy FailurePolicy timeoutViolation)

inductive MigrationDisposition where
  | migrated
  | insufficientEvidence
  | unsupported
deriving DecidableEq, Repr

/-- Machine-readable migration issue without inferred remediation. -/
structure MigrationIssue where
  code : String
  disposition : MigrationDisposition
  summary : String
  field : String
deriving DecidableEq, Repr

/-- What a migration raises. -/
inductive MigrationError where
  | evidence (issue : MigrationIssue)
  | unsupported (issue : MigrationIssue)
  | raised (error : PyError)

/-- A task of version 1 with the members that only the migration reads. -/
structure LegacyTask extends V1.TaskDefinition where
  tags : List String
  description : Option String

/-- A workflow of version 1 with the members that only the migration reads. -/
structure LegacyWorkflow where
  definition : V1.WorkflowDefinition
  tasks : List LegacyTask
  failurePolicy : FailurePolicy
  description : Option String
  declared : definition.tasks = tasks.map LegacyTask.toTaskDefinition

/-- A dictionary from executor keys to executor keys. -/
abbrev ExecutorMap := Table (Prod.fst : String × String → String)

/-- `_DEFAULT_EXECUTOR_MAP`. -/
def defaultExecutorMap : ExecutorMap := .ofList [("local", "inline")]

/-- The defaults, updated by a given mapping. -/
def executorMapping (executorMap : Option ExecutorMap) : ExecutorMap :=
  match executorMap with
  | none => defaultExecutorMap
  | some given => given.rows.foldl Table.set defaultExecutorMap

/-- `str.strip`. -/
def strip (text : String) : String :=
  .ofList (((text.toList.dropWhile isSpace).reverse.dropWhile isSpace).reverse)

/-- `str.lower`, as far as comparisons with ASCII texts go: besides the ASCII letters only the
Kelvin sign has an ASCII letter in lower case. -/
def lower (text : String) : String :=
  .ofList (text.toList.map fun character =>
    if character.toNat = 0x212a then 'k' else character.toLower)

/-- `_map_legacy_retry_category`; the names of categories are their values in upper case. -/
def mapLegacyRetryCategory (value : String) : Except MigrationError FailureCategory :=
  match StrEnum.parse? (lower (strip value)) with
  | some category => .ok category
  | none =>
      .error (.unsupported {
        code := "PWK-MIG-V1-RETRY-CATEGORY"
        disposition := .unsupported
        field := "retryable_error_categories"
        summary := "legacy retry category " ++ PyError.quoted value ++
          " has no explicit V2 FailureCategory mapping" })

/-- Results in order, or the first error. -/
def collect {α β : Type} (f : α → Except MigrationError β) :
    List α → Except MigrationError (List β)
  | [] => .ok []
  | first :: rest => do
      let value ← f first
      let values ← collect f rest
      .ok (value :: values)

/-- What a constructor of version 2 raises is not caught. -/
def raising {α : Type} (result : Except PyError α) : Except MigrationError α :=
  result.mapError .raised

/-- `RegisteredWorkload(registry_key, executor_key)`. -/
def registeredWorkload (registryKey : Text) (executorKey : String) :
    Except PyError RegisteredWorkload := do
  let key ← requireText (.text executorKey) "executor_key must not be empty"
  .ok {
    registryKey := registryKey
    parameters := []
    executorKey := some key
    contractVersion := .lit "1"
    sorted := Baggage.sorted_nil
    keysNotBlank := RegisteredWorkload.keysNotBlank_nil }

/-- The retry policy of a migrated task. -/
def migratedRetryPolicy (policy : V1.RetryPolicy) (categories : List FailureCategory) :
    Policies.RetryPolicy where
  maxAttempts := policy.maxAttempts
  backoffStrategy := policy.backoffStrategy
  initialDelaySeconds := policy.delaySeconds
  maxDelaySeconds := policy.maxDelaySeconds
  jitter := .none
  retryableFailureCategories := categories
  totalBudgetSeconds := none
  reconciliationRequired := true
  positive := policy.positive

theorem timeoutViolation_of_positive {seconds : Seconds} (hpositive : 0 < seconds.value.rat) :
    timeoutViolation seconds.value = none := by
  unfold timeoutViolation
  rw [seconds.converts]
  exact if_neg (not_le.mpr hpositive)

/-- The timeout policy of a migrated task. -/
def migratedTimeoutPolicy (task : V1.TaskDefinition) : TimeoutPolicy where
  executionTimeout := task.timeoutSeconds.map Seconds.value
  valid timeout htimeout := by
    obtain ⟨seconds, hseconds, rfl⟩ := Option.map_eq_some_iff.mp htimeout
    exact timeoutViolation_of_positive (task.positiveTimeout seconds hseconds)

/-- The metadata of a migrated task. -/
def taskMetadata (task : LegacyTask) : List (PyKey × PyValue) :=
  [(.str "migration.legacy_task_id", .str task.taskId.value),
    (.str "migration.legacy_executor_key", .str task.executorKey.value)] ++
  (match task.description with
    | none => []
    | some description => [(.str "migration.legacy_description", .str description)]) ++
  if task.tags = [] then []
  else [(.str "migration.legacy_tags", .list ((sortedSet task.tags).map .str))]

/-- `migrate_task_definition`. -/
def migrateTaskDefinition (executorMap : Option ExecutorMap) (task : LegacyTask) :
    Except MigrationError TaskDeclaration :=
  match task.handlerRef with
  | none =>
      .error (.evidence {
        code := "PWK-MIG-V1-HANDLER-REF-MISSING"
        disposition := .insufficientEvidence
        field := "handler_ref"
        summary := "V1 task has no persisted handler_ref; V2 workload identity cannot " ++
          "be reconstructed safely" })
  | some handlerRef =>
  if task.timeoutMode = .hard then
    .error (.unsupported {
      code := "PWK-MIG-V1-HARD-TIMEOUT"
      disposition := .unsupported
      field := "timeout_mode"
      summary := "V1 HARD timeout cannot be collapsed into the V2 generic execution " ++
        "deadline without changing cancellation semantics" })
  else
  match (executorMapping executorMap).find? task.executorKey.value with
  | none =>
      .error (.unsupported {
        code := "PWK-MIG-V1-EXECUTOR"
        disposition := .unsupported
        field := "executor_key"
        summary := "legacy executor " ++ PyError.quoted task.executorKey.value ++
          " has no explicit V2 mapping" })
  | some (_, executorKey) => do
      let categories ← collect mapLegacyRetryCategory task.retryPolicy.retryableErrorCategories
      let workload ← raising (registeredWorkload handlerRef executorKey)
      raising (TaskArguments.define {
        key := task.taskId.value
        workload := some ⟨.registered workload, .none, by simp⟩
        dependsOn := task.dependsOn.map fun taskId => .key taskId.value
        retryPolicy := some (migratedRetryPolicy task.retryPolicy categories)
        timeoutPolicy := some (migratedTimeoutPolicy task.toTaskDefinition)
        triggerRule := .allSuccess
        inputs := []
        outputs := []
        metadata := some (taskMetadata task) })

/-- The metadata of a migrated workflow. -/
def workflowMetadata (workflow : LegacyWorkflow) : List (PyKey × PyValue) :=
  (.str "migration.source_contract", .str "pyworkflowkit-1.1") ::
  match workflow.description with
    | none => []
    | some description => [(.str "migration.legacy_description", .str description)]

/-- `migrate_workflow_definition`. -/
def migrateWorkflowDefinition (executorMap : Option ExecutorMap) (workflow : LegacyWorkflow) :
    Except MigrationError WorkflowDeclaration :=
  if workflow.definition.parameters ≠ [] then
    .error (.unsupported {
      code := "PWK-MIG-V1-WORKFLOW-PARAMETERS"
      disposition := .unsupported
      field := "parameters"
      summary := "V1 workflow-level parameters have no automatic V2 authoring equivalent; " ++
        "migrate them explicitly into task inputs or application configuration" })
  else do
    let tasks ← collect (migrateTaskDefinition (some (executorMapping executorMap)))
      workflow.tasks
    raising (defineWorkflow workflow.definition.workflowId.value
      workflow.definition.version.value workflow.failurePolicy tasks
      (workflowMetadata workflow))

end PyWorkflowKit.Compat
