import PyWorkflowKit.Authoring.Cycles
import PyWorkflowKit.Planning.Plan

/-!
# Definitions and plans over live tasks

A definition holds task objects and a plan reads the dependencies of its tasks through
them, while its order and the fingerprint of the definition are those of the day it was
compiled.
-/

namespace PyWorkflowKit.Planning

open PyWorkflowKit.Core PyWorkflowKit.Domain PyWorkflowKit.Policies
open PyWorkflowKit.Authoring

/-- The fields of a workflow definition besides its tasks. -/
structure Header where
  name : Text
  version : Text
  failurePolicy : FailurePolicy
  metadata : JsonValue

/-- The first key that stands twice. -/
def firstDuplicate (keys : List Text) : Option Text :=
  (keys.zipIdx.find? fun entry => entry.1 ∈ keys.take entry.2).map Prod.fst

/-- `WorkflowDefinition.__post_init__`. -/
def Header.define (header : Header) (tasks : List TaskDefinition) :
    Except PyError WorkflowDefinition :=
  if hempty : tasks = [] then
    .error (.valueError "workflow must contain at least one task")
  else if hdistinct : ¬ (tasks.map TaskDefinition.key).Nodup then
    .error (.valueError ("workflow declares duplicate task key " ++
      PyError.quoted (((firstDuplicate (tasks.map TaskDefinition.key)).map
        Text.value).getD "")))
  else
    match hvalid : validateTasks tasks with
    | .error error => .error error
    | .ok () =>
        .ok {
          name := header.name
          tasks := tasks
          version := header.version
          failurePolicy := header.failurePolicy
          nonempty := hempty
          distinct := not_not.mp hdistinct
          valid := hvalid }

theorem Header.tasks_of_define {header : Header} {tasks : List TaskDefinition}
    {workflow : WorkflowDefinition} (hdefine : header.define tasks = .ok workflow) :
    workflow.tasks = tasks := by
  unfold Header.define at hdefine
  split at hdefine
  · cases hdefine
  split at hdefine
  · cases hdefine
  split at hdefine
  · cases hdefine
  · cases hdefine
    rfl

/-- `TaskDefinition.fingerprint_payload`; `frozen` lists the members for the workload,
the policies, the declarations and the metadata. -/
def taskPayload (task : TaskDefinition) (frozen : List (String × JsonValue)) : JsonValue :=
  .mapping (frozen ++ [
    ("key", .str task.key.value),
    ("dependencies", .tuple ((sortBy id (task.dependencies.map Text.value)).map .str)),
    ("trigger_rule", .str task.triggerRule.value),
    ("is_deterministic", .bool task.isDeterministic)])

/-- `WorkflowDefinition.fingerprint`, from the keys and payloads of the tasks. -/
def Header.fingerprint (header : Header) (payloads : List (Text × Except PyError JsonValue)) :
    Except PyError String :=
  (gather ((sortBy (fun payload => payload.1.value) payloads).map Prod.snd)).map fun tasks =>
    canonicalJsonDigest (.mapping [
      ("name", .str header.name.value),
      ("version", .str header.version.value),
      ("failure_policy", .str header.failurePolicy.value),
      ("tasks", .tuple tasks),
      ("metadata", header.metadata)])

theorem isBlank_canonicalJsonDigest (value : JsonValue) :
    isBlank (canonicalJsonDigest value) = false := by
  unfold isBlank canonicalJsonDigest
  rw [String.toList_append, List.all_append]
  rfl

/-- A fingerprint is a text. -/
theorem Header.exists_fingerprint (header : Header)
    {payloads : List (Text × Except PyError JsonValue)}
    (hok : (gather ((sortBy (fun payload => payload.1.value) payloads).map
      Prod.snd)).isOk = true) :
    ∃ text : Text, header.fingerprint payloads = .ok text.value := by
  unfold Header.fingerprint
  cases hgather : gather ((sortBy (fun payload => payload.1.value) payloads).map Prod.snd) with
  | error error =>
      rw [hgather] at hok
      cases hok
  | ok tasks => exact ⟨⟨_, isBlank_canonicalJsonDigest _⟩, rfl⟩

/-- `WorkflowDefinition.fingerprint_payload`. -/
def Header.workloadPayload (header : Header) (portable : Bool) (fingerprint : String) :
    JsonValue :=
  .mapping [
    ("kind", .str "workflow"),
    ("name", .str header.name.value),
    ("version", .str header.version.value),
    ("fingerprint", .str fingerprint),
    ("portability", .str (if portable then "portable" else "local_only"))]

/-- The task objects of a definition in order, with the sub-workflow that a task runs. -/
inductive Members (Object : Type) where
  | nil
  | task (object : Object) (rest : Members Object)
  | subflow (object : Object) (header : Header) (inner rest : Members Object)

namespace Members

variable {Object : Type}

/-- The tasks of the definition itself. -/
def own : Members Object → List Object
  | .nil => []
  | .task object rest => object :: rest.own
  | .subflow object _ _ rest => object :: rest.own

/-- The tasks of the definition and of its sub-workflows. -/
def all : Members Object → List Object
  | .nil => []
  | .task object rest => object :: rest.all
  | .subflow object _ inner rest => object :: (inner.all ++ rest.all)

theorem own_subset_all : ∀ members : Members Object, members.own ⊆ members.all
  | .nil => List.Subset.refl _
  | .task _ rest => List.cons_subset_cons _ rest.own_subset_all
  | .subflow _ _ _ rest =>
      List.cons_subset_cons _ (List.subset_append_of_subset_right _ rest.own_subset_all)

/-- `WorkflowDefinition.portability`. -/
def portable (session : Session Object) : Members Object → Bool
  | .nil => true
  | .task object rest =>
      workloadPortability (session.task object).workload = .portable && rest.portable session
  | .subflow _ _ inner rest => inner.portable session && rest.portable session

/-- The keys and payloads of the tasks, read from the live objects. -/
def payloads (frozen : Object → Except PyError (List (String × JsonValue)))
    (session : Session Object) : Members Object → List (Text × Except PyError JsonValue)
  | .nil => []
  | .task object rest =>
      (session.key object, (frozen object).map (taskPayload (session.task object))) ::
        rest.payloads frozen session
  | .subflow object header inner rest =>
      (session.key object, do
        let fingerprint ← header.fingerprint (inner.payloads frozen session)
        let members ← frozen object
        .ok (taskPayload (session.task object)
          (("workload", header.workloadPayload (inner.portable session) fingerprint) ::
            members))) ::
        rest.payloads frozen session

/-- What is read of the live objects depends on the tasks of the definition and its
sub-workflows only. -/
theorem payloads_congr (frozen : Object → Except PyError (List (String × JsonValue)))
    {first second : Session Object} (members : Members Object)
    (hsame : ∀ object ∈ members.all, first.task object = second.task object) :
    members.portable first = members.portable second ∧
      members.payloads frozen first = members.payloads frozen second := by
  induction members with
  | nil => exact ⟨rfl, rfl⟩
  | task object rest ih =>
      have hobject := hsame object List.mem_cons_self
      obtain ⟨hportable, hpayloads⟩ :=
        ih fun other hother => hsame other (List.mem_cons_of_mem _ hother)
      unfold portable payloads Session.key
      rw [hobject, hportable, hpayloads]
      exact ⟨rfl, rfl⟩
  | subflow object header inner rest ihinner ihrest =>
      have hobject := hsame object List.mem_cons_self
      obtain ⟨hinside, hinner⟩ := ihinner fun other hother =>
        hsame other (List.mem_cons_of_mem _ (List.mem_append_left _ hother))
      obtain ⟨hportable, hpayloads⟩ := ihrest fun other hother =>
        hsame other (List.mem_cons_of_mem _ (List.mem_append_right _ hother))
      unfold portable payloads Session.key
      rw [hobject, hinside, hinner, hportable, hpayloads]
      exact ⟨rfl, rfl⟩

/-- The live task of the definition with a key. -/
def find? (session : Session Object) (members : Members Object) (taskKey : Text) :
    Option TaskDefinition :=
  (members.own.map session.task).find? fun task => task.key = taskKey

end Members

/-- `ExecutorRequirement.fingerprint_payload`. -/
def ExecutorRequirement.payload (requirement : ExecutorRequirement) : JsonValue :=
  .mapping [
    ("executor_key", .str requirement.executorKey.value),
    ("workload_kind", .str requirement.workloadKind.value),
    ("portable", .bool requirement.portable)]

/-- `TaskPlanEntry.fingerprint_payload`, from the payload of its task. -/
def TaskPlanEntry.payload (entry : TaskPlanEntry) (task : JsonValue) : JsonValue :=
  .mapping [
    ("task", task),
    ("position", .int entry.position),
    ("group_index", .int entry.groupIndex),
    ("executor_requirement", entry.executorRequirement.payload),
    ("required_integrations", .tuple (entry.requiredIntegrations.map .str))]

/-- What `ExecutionPlan.fingerprint` lists of a diagnostic. -/
def diagnosticPayload (diagnostic : Diagnostic) : JsonValue :=
  .mapping [
    ("code", .str diagnostic.code.value),
    ("severity", .str diagnostic.severity.value),
    ("summary", .str diagnostic.summary.value),
    ("details", .tuple (diagnostic.details.map fun item =>
      .tuple [.str item.1, .str item.2])),
    ("decision_context",
      (diagnostic.decisionContext.map fun text => JsonValue.str text.value).getD .null),
    ("related_policy",
      (diagnostic.relatedPolicy.map fun text => JsonValue.str text.value).getD .null)]

/-- `ExecutionPlan.fingerprint`, from the keys and payloads of the live tasks. -/
def ExecutionPlan.fingerprint (plan : ExecutionPlan)
    (payloads : List (Text × Except PyError JsonValue)) : Except PyError String :=
  (gather (plan.tasks.map fun entry =>
    ((payloads.lookup entry.key).getD (.error (.keyError entry.key.value))).map
      entry.payload)).map fun tasks =>
    canonicalJsonDigest (.mapping [
      ("workflow_name", .str plan.workflowName.value),
      ("workflow_version", .str plan.workflowVersion.value),
      ("definition_fingerprint", .str plan.definitionFingerprint.value),
      ("failure_policy", .str plan.failurePolicy.value),
      ("tasks", .tuple tasks),
      ("topological_order", .tuple (plan.topologicalOrder.map fun key => .str key.value)),
      ("groups", .tuple (plan.groups.map fun group =>
        .tuple (group.map fun key => .str key.value))),
      ("required_capabilities", .tuple (plan.requiredCapabilities.map .str)),
      ("required_integrations", .tuple (plan.requiredIntegrations.map .str)),
      ("diagnostics", .tuple (plan.diagnostics.map diagnosticPayload))])

/-- The entries of a plan with their tasks as they are now. -/
def ExecutionPlan.liveTasks {Object : Type} (plan : ExecutionPlan) (session : Session Object)
    (members : Members Object) : List TaskPlanEntry :=
  plan.tasks.map fun entry =>
    { entry with task := (members.find? session entry.key).getD entry.task }

end PyWorkflowKit.Planning
