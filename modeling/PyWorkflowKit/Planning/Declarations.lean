import PyWorkflowKit.Planning.LiveView

/-!
# Full declarations

What a fingerprint covers of a task besides the members that the planner reads: the payload
of its workload, its policies, its inputs and outputs and its metadata.
-/

namespace PyWorkflowKit.Planning

open PyWorkflowKit.Core PyWorkflowKit.Domain PyWorkflowKit.Policies
open PyWorkflowKit.Authoring

section Freezing

mutual

/-- `freeze_json_value`. -/
def freezeJsonValue (path : String) : PyValue → Except PyError JsonValue
  | .none => .ok .null
  | .str value => .ok (.str value)
  | .bool value => .ok (.bool value)
  | .int value => .ok (.int value)
  | .float repr finite =>
      if finite then .ok (.float repr)
      else .error (.valueError (path ++ " must contain only finite numbers"))
  | .dict members => (gather (freezeMembers path members)).map fun frozen =>
      .mapping (dictOf frozen)
  | .list items => (gather (freezeItems path 0 items)).map JsonValue.tuple
  | .tuple items => (gather (freezeItems path 0 items)).map JsonValue.tuple
  | .enum _ =>
      .error (.typeError (path ++
        " must contain only JSON-like immutable authoring values; got Enum"))
  | .other typeName =>
      .error (.typeError (path ++
        " must contain only JSON-like immutable authoring values; got " ++ typeName))

def freezeItems (path : String) (index : Nat) : List PyValue → List (Except PyError JsonValue)
  | [] => []
  | item :: rest =>
      freezeJsonValue (path ++ "[" ++ toString index ++ "]") item ::
        freezeItems path (index + 1) rest

def freezeMembers (path : String) :
    List (PyKey × PyValue) → List (Except PyError (String × JsonValue))
  | [] => []
  | (key, value) :: rest =>
      (match key with
        | .str name =>
            if isBlank name then
              .error (.valueError (path ++ " mapping keys must be non-empty strings"))
            else (freezeJsonValue (path ++ "." ++ name) value).map fun frozen => (name, frozen)
        | .other _ =>
            .error (.valueError (path ++ " mapping keys must be non-empty strings"))) ::
        freezeMembers path rest

end

mutual

/-- No mapping has a key twice or a blank one, at any depth. -/
def Frozen : JsonValue → Prop
  | .tuple items => FrozenItems items
  | .mapping members => (members.map Prod.fst).Nodup ∧ FrozenMembers members
  | _ => True

def FrozenItems : List JsonValue → Prop
  | [] => True
  | item :: rest => Frozen item ∧ FrozenItems rest

def FrozenMembers : List (String × JsonValue) → Prop
  | [] => True
  | (key, value) :: rest => isBlank key = false ∧ Frozen value ∧ FrozenMembers rest

end

mutual

/-- `thaw_json_value`. -/
def thawJsonValue : JsonValue → JsonValue
  | .mapping members => .mapping (sortBy Prod.fst (thawMembers members))
  | .tuple items => .tuple (thawItems items)
  | .null => .null
  | .bool value => .bool value
  | .int value => .int value
  | .float repr => .float repr
  | .str value => .str value

def thawItems : List JsonValue → List JsonValue
  | [] => []
  | item :: rest => thawJsonValue item :: thawItems rest

def thawMembers : List (String × JsonValue) → List (String × JsonValue)
  | [] => []
  | (key, value) :: rest => (key, thawJsonValue value) :: thawMembers rest

end

theorem frozenItems_iff (items : List JsonValue) :
    FrozenItems items ↔ ∀ item ∈ items, Frozen item := by
  induction items with
  | nil => simp [FrozenItems]
  | cons item rest ih => simp [FrozenItems, ih]

theorem frozenMembers_iff (members : List (String × JsonValue)) :
    FrozenMembers members ↔
      ∀ member ∈ members, isBlank member.1 = false ∧ Frozen member.2 := by
  induction members with
  | nil => simp [FrozenMembers]
  | cons member rest ih =>
      obtain ⟨key, value⟩ := member
      simp [FrozenMembers, ih, and_assoc]

theorem nodup_keys_dictOf {α : Type} (members : List (String × α)) :
    ((dictOf members).map Prod.fst).Nodup := by
  have hrows : ∀ rows : List (String × α), (rows.map Prod.fst).Nodup →
      ((members.foldl (assignRow Prod.fst) rows).map Prod.fst).Nodup := by
    induction members with
    | nil => exact fun _ hrows => hrows
    | cons first rest ih =>
        exact fun rows hrows => ih _ (nodup_map_key_assignRow Prod.fst first hrows)
  exact hrows [] List.nodup_nil

mutual

/-- What is frozen has every key once. -/
theorem frozen_of_freeze (path : String) (value : PyValue) {json : JsonValue}
    (hfreeze : freezeJsonValue path value = .ok json) : Frozen json := by
  cases value with
  | none => cases hfreeze; trivial
  | str text => cases hfreeze; trivial
  | bool flag => cases hfreeze; trivial
  | int number => cases hfreeze; trivial
  | float repr finite =>
      rw [freezeJsonValue] at hfreeze
      split at hfreeze
      · cases hfreeze; trivial
      · cases hfreeze
  | dict members =>
      rw [freezeJsonValue] at hfreeze
      cases hmembers : gather (freezeMembers path members) with
      | error error => rw [hmembers] at hfreeze; cases hfreeze
      | ok frozen =>
          rw [hmembers] at hfreeze
          cases hfreeze
          refine ⟨nodup_keys_dictOf _, (frozenMembers_iff _).mpr fun member hmember => ?_⟩
          exact frozen_of_freezeMembers path members member
            (mem_of_gather hmembers (mem_of_mem_dictOf hmember))
  | list items =>
      rw [freezeJsonValue] at hfreeze
      cases hitems : gather (freezeItems path 0 items) with
      | error error => rw [hitems] at hfreeze; cases hfreeze
      | ok frozen =>
          rw [hitems] at hfreeze
          cases hfreeze
          exact (frozenItems_iff _).mpr fun item hitem =>
            frozen_of_freezeItems path 0 items item (mem_of_gather hitems hitem)
  | tuple items =>
      rw [freezeJsonValue] at hfreeze
      cases hitems : gather (freezeItems path 0 items) with
      | error error => rw [hitems] at hfreeze; cases hfreeze
      | ok frozen =>
          rw [hitems] at hfreeze
          cases hfreeze
          exact (frozenItems_iff _).mpr fun item hitem =>
            frozen_of_freezeItems path 0 items item (mem_of_gather hitems hitem)
  | enum inner => cases hfreeze
  | other typeName => cases hfreeze

theorem frozen_of_freezeItems (path : String) (index : Nat) (items : List PyValue) :
    ∀ json, .ok json ∈ freezeItems path index items → Frozen json := by
  cases items with
  | nil => simp [freezeItems]
  | cons item rest =>
      intro json hjson
      rw [freezeItems, List.mem_cons] at hjson
      rcases hjson with hhead | hrest
      · exact frozen_of_freeze _ item hhead.symm
      · exact frozen_of_freezeItems path (index + 1) rest json hrest

theorem frozen_of_freezeMembers (path : String) (members : List (PyKey × PyValue)) :
    ∀ member, .ok member ∈ freezeMembers path members →
      isBlank member.1 = false ∧ Frozen member.2 := by
  cases members with
  | nil => simp [freezeMembers]
  | cons first rest =>
      obtain ⟨key, value⟩ := first
      intro member hmember
      simp only [freezeMembers, List.mem_cons] at hmember
      rcases hmember with hhead | hrest
      · cases key with
        | other text => cases hhead
        | str name =>
            simp only at hhead
            split at hhead
            · cases hhead
            · next hname =>
              cases hvalue : freezeJsonValue (path ++ "." ++ name) value with
              | error error => rw [hvalue] at hhead; cases hhead
              | ok frozen =>
                  rw [hvalue] at hhead
                  cases hhead
                  exact ⟨by simpa using hname, frozen_of_freeze _ value hvalue⟩
      · exact frozen_of_freezeMembers path rest member hrest

end

end Freezing

/-- A frozen mapping of metadata. -/
structure Metadata where
  members : List (String × JsonValue)
  frozen : Frozen (.mapping members)

/-- What `freeze_metadata` makes of one member. -/
def freezeMember (member : PyKey × PyValue) : Except PyError (String × JsonValue) :=
  match member.1 with
  | .other _ => .error (.typeError "metadata key must be a string")
  | .str key =>
      if isBlank key then .error (.valueError "metadata key must not be empty")
      else (freezeJsonValue ("metadata." ++ key) member.2).map fun frozen => (key, frozen)

/-- `freeze_metadata` on the members of a mapping. -/
def Metadata.freeze (members : List (PyKey × PyValue)) : Except PyError Metadata :=
  match hfrozen : gather (members.map freezeMember) with
  | .error error => .error error
  | .ok frozen =>
      .ok ⟨dictOf frozen, nodup_keys_dictOf frozen, (frozenMembers_iff _).mpr (by
        intro member hmember
        obtain ⟨given, -, hgiven⟩ :=
          List.mem_map.mp (mem_of_gather hfrozen (mem_of_mem_dictOf hmember))
        unfold freezeMember at hgiven
        split at hgiven
        · cases hgiven
        · next key _ =>
          split at hgiven
          · cases hgiven
          · next hkey =>
            cases hvalue : freezeJsonValue ("metadata." ++ key) given.2 with
            | error error => rw [hvalue] at hgiven; cases hgiven
            | ok value =>
                rw [hvalue] at hgiven
                cases hgiven
                exact ⟨by simpa using hkey, frozen_of_freeze _ given.2 hvalue⟩)⟩

/-- `_metadata_payload`. -/
def Metadata.payload (metadata : Metadata) : JsonValue :=
  thawJsonValue (.mapping metadata.members)

def Metadata.empty : Metadata := ⟨[], List.nodup_nil, trivial⟩

/-- Runtime-independent declaration of one named task input. -/
structure InputDeclaration where
  name : Text
  required : Bool
  portable : Bool
  metadata : Metadata

/-- Runtime-independent declaration of one named task output. -/
structure OutputDeclaration where
  name : Text
  portable : Bool
  metadata : Metadata

/-- `InputDeclaration.fingerprint_payload`. -/
def InputDeclaration.fingerprintPayload (declaration : InputDeclaration) : JsonValue :=
  .mapping [
    ("name", .str declaration.name.value),
    ("portable", .bool declaration.portable),
    ("required", .bool declaration.required),
    ("metadata", declaration.metadata.payload)]

/-- `OutputDeclaration.fingerprint_payload`. -/
def OutputDeclaration.fingerprintPayload (declaration : OutputDeclaration) : JsonValue :=
  .mapping [
    ("name", .str declaration.name.value),
    ("portable", .bool declaration.portable),
    ("metadata", declaration.metadata.payload)]

/-- `repr` of a float, which tells floats apart. -/
structure FloatRepr where
  text : ℚ → String
  injective : Function.Injective text

section Payloads

variable (repr : FloatRepr)

/-- A number in a payload. -/
def numberPayload : Number → JsonValue
  | .int value => .int value
  | .float value => .float (repr.text value)

/-- A number that may be missing. -/
def optionalPayload : Option Number → JsonValue
  | none => .null
  | some value => numberPayload repr value

/-- The retry policy in `TaskDefinition.fingerprint_payload`; its categories are a set. -/
def retryPayload (policy : RetryPolicy) : JsonValue :=
  .mapping [
    ("max_attempts", .int policy.maxAttempts),
    ("backoff_strategy", .str policy.backoffStrategy.value),
    ("initial_delay_seconds", numberPayload repr policy.initialDelaySeconds.value),
    ("max_delay_seconds", optionalPayload repr (policy.maxDelaySeconds.map Seconds.value)),
    ("jitter", .str policy.jitter.value),
    ("retryable_failure_categories",
      .tuple ((sortedSet (policy.retryableFailureCategories.map FailureCategory.value)).map
        .str)),
    ("total_budget_seconds",
      optionalPayload repr (policy.totalBudgetSeconds.map Seconds.value)),
    ("reconciliation_required", .bool policy.reconciliationRequired)]

/-- The timeout policy in `TaskDefinition.fingerprint_payload`. -/
def timeoutPayload (policy : TimeoutPolicy) : JsonValue :=
  .mapping [("execution_timeout", optionalPayload repr policy.executionTimeout)]

end Payloads

mutual

/-- `_canonicalize`; a float that `json.dumps` refuses is refused here already. -/
def canonicalize : PyValue → Except PyError JsonValue
  | .none => .ok .null
  | .str value => .ok (.str value)
  | .bool value => .ok (.bool value)
  | .int value => .ok (.int value)
  | .float repr finite =>
      if finite then .ok (.float repr)
      else .error (.valueError "Out of range float values are not JSON compliant")
  | .dict members =>
      (gather ((sortBy Prod.fst (canonicalizeMembers members)).map Prod.snd)).map
        fun canonical => .mapping (dictOf canonical)
  | .list items => (gather (canonicalizeItems items)).map JsonValue.tuple
  | .tuple items => (gather (canonicalizeItems items)).map JsonValue.tuple
  | .enum _ =>
      .error (.typeError
        "workload fingerprint payload must contain only JSON-compatible values; got Enum")
  | .other typeName =>
      .error (.typeError
        ("workload fingerprint payload must contain only JSON-compatible values; got " ++
          typeName))

def canonicalizeItems : List PyValue → List (Except PyError JsonValue)
  | [] => []
  | item :: rest => canonicalize item :: canonicalizeItems rest

def canonicalizeMembers :
    List (PyKey × PyValue) → List (String × Except PyError (String × JsonValue))
  | [] => []
  | (key, value) :: rest =>
      (key.text, (canonicalize value).map fun canonical => (key.text, canonical)) ::
        canonicalizeMembers rest

end

/-- `payload.get("kind", "unknown")` before it is checked; `none` is no mapping. -/
def payloadKindOf : PyValue → Option (Option Attribute)
  | .dict members =>
      some ((members.lookup (.str "kind")).map fun
        | .str value => .text value
        | _ => .other)
  | _ => none

/-- A task with everything that its fingerprint covers. -/
structure TaskDeclaration extends TaskDefinition where
  /-- what `fingerprint_payload` of a descriptor returns -/
  descriptorPayload : PyValue
  inputs : List InputDeclaration
  outputs : List OutputDeclaration
  metadata : Metadata
  described : ∀ descriptor, workload = .descriptor descriptor →
    descriptor.payloadKind = payloadKindOf descriptorPayload
  inputsDistinct : (inputs.map fun declaration => declaration.name.value).Nodup
  outputsDistinct : (outputs.map fun declaration => declaration.name.value).Nodup

namespace TaskDeclaration

/-- `workload_fingerprint_payload`. -/
def workloadFingerprintPayload (declaration : TaskDeclaration) : Except PyError PyValue := do
  let _ ← workloadPayloadKind declaration.workload
  match declaration.workload with
  | .localCallable moduleName qualname =>
      .ok (.dict [
        (.str "kind", .str "python_callable"),
        (.str "callable_ref", .str (moduleName.getD "" ++ ":" ++ qualname.getD "")),
        (.str "portability", .str "local_only")])
  | .registered workload =>
      .ok (.dict [
        (.str "kind", .str "registered"),
        (.str "registry_key", .str workload.registryKey.value),
        (.str "parameters", .list (workload.parameters.map fun item =>
          .list [.str item.1, .str item.2])),
        (.str "executor_key",
          match workload.executorKey with
          | none => .none
          | some key => .str key.value),
        (.str "contract_version", .str workload.contractVersion.value)])
  | .descriptor _ => .ok declaration.descriptorPayload

/-- The workload in `fingerprint_payload`. -/
def canonicalWorkload (declaration : TaskDeclaration) : Except PyError JsonValue := do
  let payload ← declaration.workloadFingerprintPayload
  canonicalize payload

/-- `TaskDefinition.fingerprint_payload`. -/
def fingerprintPayload (repr : FloatRepr) (declaration : TaskDeclaration) :
    Except PyError JsonValue := do
  let workload ← declaration.canonicalWorkload
  .ok (taskPayload declaration.toTaskDefinition [
    ("workload", workload),
    ("retry_policy", retryPayload repr declaration.retryPolicy),
    ("timeout_policy", timeoutPayload repr declaration.timeoutPolicy),
    ("inputs", .tuple ((sortBy (fun input => input.name.value) declaration.inputs).map
      InputDeclaration.fingerprintPayload)),
    ("outputs", .tuple ((sortBy (fun output => output.name.value) declaration.outputs).map
      OutputDeclaration.fingerprintPayload)),
    ("metadata", declaration.metadata.payload)])

end TaskDeclaration

/-- A workflow with everything that its fingerprint covers. -/
structure WorkflowDeclaration where
  definition : WorkflowDefinition
  tasks : List TaskDeclaration
  metadata : Metadata
  declared : definition.tasks = tasks.map TaskDeclaration.toTaskDefinition

namespace WorkflowDeclaration

def header (workflow : WorkflowDeclaration) : Header where
  name := workflow.definition.name
  version := workflow.definition.version
  failurePolicy := workflow.definition.failurePolicy
  metadata := workflow.metadata.payload

/-- The keys and payloads of the tasks. -/
def payloads (repr : FloatRepr) (workflow : WorkflowDeclaration) :
    List (Text × Except PyError JsonValue) :=
  workflow.tasks.map fun task => (task.key, task.fingerprintPayload repr)

/-- `WorkflowDefinition.fingerprint`. -/
def fingerprint (repr : FloatRepr) (workflow : WorkflowDeclaration) : Except PyError String :=
  workflow.header.fingerprint (workflow.payloads repr)

theorem distinct (workflow : WorkflowDeclaration) :
    (workflow.tasks.map fun task => task.key.value).Nodup := by
  have hdistinct := workflow.definition.distinct
  rw [workflow.declared, List.map_map] at hdistinct
  have hvalues : (workflow.tasks.map fun task => task.key.value) =
      (workflow.tasks.map (TaskDefinition.key ∘ TaskDeclaration.toTaskDefinition)).map
        Text.value := by
    rw [List.map_map]
    rfl
  rw [hvalues]
  exact hdistinct.map fun _ _ => Text.ext

end WorkflowDeclaration

/-- A plan whose tasks have everything that its fingerprint covers. -/
structure PlanDeclaration where
  plan : ExecutionPlan
  tasks : List TaskDeclaration
  declared : plan.tasks.map TaskPlanEntry.task = tasks.map TaskDeclaration.toTaskDefinition

namespace PlanDeclaration

/-- The keys and payloads of the planned tasks. -/
def payloads (repr : FloatRepr) (planned : PlanDeclaration) :
    List (Text × Except PyError JsonValue) :=
  planned.tasks.map fun task => (task.key, task.fingerprintPayload repr)

/-- `ExecutionPlan.fingerprint`. -/
def fingerprint (repr : FloatRepr) (planned : PlanDeclaration) : Except PyError String :=
  planned.plan.fingerprint (planned.payloads repr)

end PlanDeclaration

end PyWorkflowKit.Planning
