import PyWorkflowKit.Core.Sorting
import PyWorkflowKit.Domain.Evidence
import PyWorkflowKit.Policies.Retry
import PyWorkflowKit.Policies.Rules

/-!
# Workloads, tasks and workflows

The immutable declarations that the planner compiles, with the checks of their
constructors.
-/

namespace PyWorkflowKit.Authoring

open PyWorkflowKit.Core PyWorkflowKit.Domain PyWorkflowKit.Policies

inductive WorkloadPortability where
  | localOnly
  | portable
deriving DecidableEq, Repr

/-- The value of an attribute that should be a string. -/
inductive Attribute where
  | text (value : String)
  | other
deriving DecidableEq, Repr

/-- Portable reference to workload code; parameters are listed by key. -/
structure RegisteredWorkload where
  registryKey : Text
  parameters : Pairs
  executorKey : Option Text
  contractVersion : Text
  sorted : parameters.Pairwise fun left right => left.1 < right.1
  keysNotBlank : ∀ parameter ∈ parameters, isBlank parameter.1 = false
deriving DecidableEq

theorem RegisteredWorkload.keysNotBlank_nil :
    ∀ parameter ∈ ([] : Pairs), isBlank parameter.1 = false := by
  simp

/-- What the planner reads of a workload descriptor.  The payload is `none` when
`fingerprint_payload` does not return a mapping. -/
structure Descriptor where
  workloadKind : String
  portability : WorkloadPortability
  payloadKind : Option (Option Attribute)
  executorKey : Option Attribute
  integrationKey : Option Attribute
deriving DecidableEq

inductive Workload where
  | localCallable (moduleName qualname : Option String)
  | registered (workload : RegisteredWorkload)
  | descriptor (workload : Descriptor)
deriving DecidableEq

/-- `workload_portability`. -/
def workloadPortability : Workload → WorkloadPortability
  | .localCallable _ _ => .localOnly
  | .registered _ => .portable
  | .descriptor workload => workload.portability

/-- The `kind` of `workload_fingerprint_payload`, before it is checked. -/
def workloadPayloadKind : Workload → Except PyError (Option Attribute)
  | .localCallable moduleName qualname =>
      if moduleName.all isBlank then
        .error (.valueError
          "local callable workload must expose __module__ for deterministic fingerprinting")
      else if qualname.all isBlank then
        .error (.valueError
          ("local callable workload must expose __qualname__; " ++
            "use RegisteredWorkload for callable objects"))
      else .ok (some (.text "python_callable"))
  | .registered _ => .ok (some (.text "registered"))
  | .descriptor workload =>
      match workload.payloadKind with
      | none => .error (.typeError "fingerprint_payload() must return a mapping")
      | some kind => .ok kind

/-- Immutable declaration of exactly one workload boundary. -/
structure TaskDefinition where
  key : Text
  workload : Workload
  dependencies : List Text
  retryPolicy : RetryPolicy
  timeoutPolicy : TimeoutPolicy
  triggerRule : TriggerRule
  isDeterministic : Bool
  distinct : dependencies.Nodup
  notSelf : key ∉ dependencies
deriving DecidableEq

/-- The state of the loop of `_validate_acyclic`. -/
structure Peeling where
  dependencies : List (Text × List Text)
  ready : List Text
  visited : List Text

namespace Peeling

/-- The body of the inner loop: `downstream` no longer waits for `key`. -/
def release (key : Text) (state : Peeling) (downstream : Text) : Peeling :=
  let before := (state.dependencies.lookup downstream).getD []
  if key ∉ before then state
  else
    let after := before.erase key
    let dependencies := state.dependencies.map fun entry =>
      if entry.1 = downstream then (entry.1, after) else entry
    if after = [] ∧ downstream ∉ state.visited ∧ downstream ∉ state.ready then
      { state with
        dependencies := dependencies
        ready := sortBy Text.value (state.ready ++ [downstream]) }
    else { state with dependencies := dependencies }

/-- The `while ready` loop; every round visits one more task. -/
def run : Nat → Peeling → Peeling
  | 0, state => state
  | rounds + 1, state =>
      match state.ready with
      | [] => state
      | key :: rest =>
          let started := { state with ready := rest, visited := state.visited ++ [key] }
          run rounds ((sortBy Text.value (state.dependencies.map Prod.fst)).foldl
            (release key) started)

end Peeling

/-- `_validate_acyclic`. -/
def validateAcyclic (tasks : List TaskDefinition) : Except PyError Unit :=
  let dependencies := tasks.map fun task => (task.key, task.dependencies)
  let ready := sortBy Text.value
    ((dependencies.filter fun entry => entry.2 = []).map Prod.fst)
  let last := Peeling.run (tasks.length + 1) ⟨dependencies, ready, []⟩
  if last.visited.length = tasks.length then .ok ()
  else
    .error (.circularDependency (sortBy id
      ((last.dependencies.filter fun entry => entry.2 ≠ []).map fun entry =>
        entry.1.value)))

/-- `WorkflowDefinition.validate`. -/
def validateTasks (tasks : List TaskDefinition) : Except PyError Unit :=
  let known := tasks.map TaskDefinition.key
  let unknown := tasks.findSome? fun task =>
    (task.dependencies.find? fun dependency => dependency ∉ known).map fun dependency =>
      "task " ++ PyError.quoted task.key.value ++ " depends on unknown task " ++
        PyError.quoted dependency.value
  match unknown with
  | some message => .error (.valueError message)
  | none => validateAcyclic tasks

/-- Immutable root of a workflow declaration. -/
structure WorkflowDefinition where
  name : Text
  tasks : List TaskDefinition
  version : Text
  failurePolicy : FailurePolicy
  nonempty : tasks ≠ []
  distinct : (tasks.map TaskDefinition.key).Nodup
  valid : validateTasks tasks = .ok ()

/-- A validated workflow has every dependency among its tasks. -/
theorem WorkflowDefinition.dependency_known (workflow : WorkflowDefinition)
    {task : TaskDefinition} (htask : task ∈ workflow.tasks) {dependency : Text}
    (hdependency : dependency ∈ task.dependencies) :
    dependency ∈ workflow.tasks.map TaskDefinition.key := by
  have hvalid := workflow.valid
  unfold validateTasks at hvalid
  simp only at hvalid
  split at hvalid
  · cases hvalid
  · next hnone =>
    have htask' := List.findSome?_eq_none_iff.mp hnone task htask
    simp only [Option.map_eq_none_iff, List.find?_eq_none] at htask'
    simpa using htask' dependency hdependency

end PyWorkflowKit.Authoring
