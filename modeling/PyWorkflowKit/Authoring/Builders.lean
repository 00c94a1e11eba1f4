import PyWorkflowKit.Authoring.Acyclicity
import PyWorkflowKit.Core.DepthFirst
import PyWorkflowKit.Planning.Declarations

/-!
# The builder

The builder collects tasks one by one, possibly before their dependencies, and searches for
a cycle among the keys known so far after it has taken a task in.
-/

namespace PyWorkflowKit.Authoring

open Relation
open PyWorkflowKit.Core PyWorkflowKit.Domain PyWorkflowKit.Policies PyWorkflowKit.Planning

/-- A workload with what its `fingerprint_payload` returns. -/
structure WorkloadArgument where
  workload : Workload
  descriptorPayload : PyValue
  described : ∀ descriptor, workload = .descriptor descriptor →
    descriptor.payloadKind = payloadKindOf descriptorPayload

/-- What `depends_on` lists. -/
inductive DependencyArgument where
  | task (definition : TaskDeclaration)
  | key (value : String)

def DependencyArgument.text : DependencyArgument → String
  | task definition => definition.key.value
  | key value => value

/-- The arguments of `WorkflowDefinitionBuilder.task`; `workload` is `none` for an object that
is no workload. -/
structure TaskArguments where
  key : String
  workload : Option WorkloadArgument
  dependsOn : List DependencyArgument
  retryPolicy : Option RetryPolicy
  timeoutPolicy : Option TimeoutPolicy
  triggerRule : TriggerRule
  inputs : List InputDeclaration
  outputs : List OutputDeclaration
  metadata : Option (List (PyKey × PyValue))

/-- The first name that stands twice. -/
def firstTwice (names : List String) : String :=
  ((names.zipIdx.find? fun entry => entry.1 ∈ names.take entry.2).map Prod.fst).getD ""

/-- `require_non_empty_text` on every dependency. -/
def requireDependencies (keys : List String) : Except PyError (List Text) :=
  gather (keys.map fun key => requireText (.text key) "dependency key must not be empty")

theorem requireText_eq_ok {value message : String} {text : Text}
    (hrequire : requireText (.text value) message = .ok text) : text.value = value := by
  unfold requireText at hrequire
  simp only at hrequire
  split at hrequire
  · cases hrequire
  · next found hfound =>
    cases hrequire
    exact Text.value_of_ofString? hfound

theorem values_of_requireDependencies {keys : List String} {dependencies : List Text}
    (hrequire : requireDependencies keys = .ok dependencies) :
    dependencies.map Text.value = keys := by
  have hall := forall₂_of_gather hrequire
  rw [List.forall₂_map_left_iff] at hall
  rw [← List.forall₂_eq_eq_eq, List.forall₂_map_left_iff]
  exact (hall.imp fun _ _ hone => requireText_eq_ok hone).flip

/-- The construction of a `TaskDefinition` from the arguments of the builder. -/
def TaskArguments.define (arguments : TaskArguments) : Except PyError TaskDeclaration :=
  let keys := arguments.dependsOn.map DependencyArgument.text
  match requireText (.text arguments.key) "task key must not be empty" with
  | .error error => .error error
  | .ok key =>
  match arguments.workload with
  | none => .error (.typeError "workload must be callable or implement WorkloadDescriptor")
  | some workload =>
  if hdistinct : ¬ keys.Nodup then
    .error (.valueError ("task " ++ PyError.quoted arguments.key ++
      " declares duplicate dependencies"))
  else
  match hdependencies : requireDependencies keys with
  | .error error => .error error
  | .ok dependencies =>
  if hself : key ∈ dependencies then
    .error (.valueError ("task " ++ PyError.quoted arguments.key ++
      " cannot depend on itself"))
  else if hinputs : ¬ (arguments.inputs.map fun input => input.name.value).Nodup then
    .error (.valueError ("task declares duplicate input " ++ PyError.quoted
      (firstTwice (arguments.inputs.map fun input => input.name.value))))
  else if houtputs : ¬ (arguments.outputs.map fun output => output.name.value).Nodup then
    .error (.valueError ("task declares duplicate output " ++ PyError.quoted
      (firstTwice (arguments.outputs.map fun output => output.name.value))))
  else
  match Metadata.freeze (arguments.metadata.getD []) with
  | .error error => .error error
  | .ok metadata =>
    .ok {
      key := key
      workload := workload.workload
      dependencies := dependencies
      retryPolicy := arguments.retryPolicy.getD .default
      timeoutPolicy := arguments.timeoutPolicy.getD .none
      triggerRule := arguments.triggerRule
      isDeterministic := true
      distinct := by
        apply List.Nodup.of_map Text.value
        rw [values_of_requireDependencies hdependencies]
        exact not_not.mp hdistinct
      notSelf := hself
      descriptorPayload := workload.descriptorPayload
      inputs := arguments.inputs
      outputs := arguments.outputs
      metadata := metadata
      described := workload.described
      inputsDistinct := not_not.mp hinputs
      outputsDistinct := not_not.mp houtputs }

/-- What a task takes from the arguments as it is. -/
theorem fields_of_define {arguments : TaskArguments} {task : TaskDeclaration}
    (hdefine : arguments.define = .ok task) :
    task.key.value = arguments.key ∧
      (∃ argument, arguments.workload = some argument ∧ task.workload = argument.workload) ∧
      task.dependencies.map Text.value = arguments.dependsOn.map DependencyArgument.text ∧
      task.retryPolicy = arguments.retryPolicy.getD .default := by
  unfold TaskArguments.define at hdefine
  simp only at hdefine
  split at hdefine
  · cases hdefine
  next key hkey =>
  split at hdefine
  · cases hdefine
  next argument hargument =>
  split at hdefine
  · cases hdefine
  split at hdefine
  · cases hdefine
  next dependencies hdependencies =>
  split at hdefine
  · cases hdefine
  split at hdefine
  · cases hdefine
  split at hdefine
  · cases hdefine
  split at hdefine
  · cases hdefine
  cases hdefine
  exact ⟨requireText_eq_ok hkey, ⟨argument, hargument, rfl⟩,
    values_of_requireDependencies hdependencies, rfl⟩

theorem key_of_define {arguments : TaskArguments} {task : TaskDeclaration}
    (hdefine : arguments.define = .ok task) : task.key.value = arguments.key :=
  (fields_of_define hdefine).1

section Errors

/-- The errors of constructors. -/
def Plain (error : PyError) : Prop :=
  (∃ message, error = .valueError message) ∨ ∃ message, error = .typeError message

mutual

theorem plain_of_freeze (path : String) (value : PyValue) {error : PyError}
    (hfreeze : freezeJsonValue path value = .error error) : Plain error := by
  cases value with
  | none => cases hfreeze
  | str text => cases hfreeze
  | bool flag => cases hfreeze
  | int number => cases hfreeze
  | float repr finite =>
      rw [freezeJsonValue] at hfreeze
      split at hfreeze
      · cases hfreeze
      · cases hfreeze
        exact Or.inl ⟨_, rfl⟩
  | dict members =>
      rw [freezeJsonValue] at hfreeze
      cases hmembers : gather (freezeMembers path members) with
      | error inner =>
          rw [hmembers] at hfreeze
          cases hfreeze
          exact plain_of_freezeMembers path members _ (gather_eq_error hmembers)
      | ok frozen =>
          rw [hmembers] at hfreeze
          cases hfreeze
  | list items =>
      rw [freezeJsonValue] at hfreeze
      cases hitems : gather (freezeItems path 0 items) with
      | error inner =>
          rw [hitems] at hfreeze
          cases hfreeze
          exact plain_of_freezeItems path 0 items _ (gather_eq_error hitems)
      | ok frozen =>
          rw [hitems] at hfreeze
          cases hfreeze
  | tuple items =>
      rw [freezeJsonValue] at hfreeze
      cases hitems : gather (freezeItems path 0 items) with
      | error inner =>
          rw [hitems] at hfreeze
          cases hfreeze
          exact plain_of_freezeItems path 0 items _ (gather_eq_error hitems)
      | ok frozen =>
          rw [hitems] at hfreeze
          cases hfreeze
  | enum inner =>
      cases hfreeze
      exact Or.inr ⟨_, rfl⟩
  | other typeName =>
      cases hfreeze
      exact Or.inr ⟨_, rfl⟩

theorem plain_of_freezeItems (path : String) (index : Nat) (items : List PyValue) :
    ∀ error, .error error ∈ freezeItems path index items → Plain error := by
  cases items with
  | nil => simp [freezeItems]
  | cons item rest =>
      intro error herror
      rw [freezeItems, List.mem_cons] at herror
      rcases herror with hhead | hrest
      · exact plain_of_freeze _ item hhead.symm
      · exact plain_of_freezeItems path (index + 1) rest error hrest

theorem plain_of_freezeMembers (path : String) (members : List (PyKey × PyValue)) :
    ∀ error, .error error ∈ freezeMembers path members → Plain error := by
  cases members with
  | nil => simp [freezeMembers]
  | cons first rest =>
      obtain ⟨key, value⟩ := first
      intro error herror
      simp only [freezeMembers, List.mem_cons] at herror
      rcases herror with hhead | hrest
      · cases key with
        | other text =>
            cases hhead
            exact Or.inl ⟨_, rfl⟩
        | str name =>
            simp only at hhead
            split at hhead
            · cases hhead
              exact Or.inl ⟨_, rfl⟩
            · cases hvalue : freezeJsonValue (path ++ "." ++ name) value with
              | error inner =>
                  rw [hvalue] at hhead
                  cases hhead
                  exact plain_of_freeze _ value hvalue
              | ok frozen =>
                  rw [hvalue] at hhead
                  cases hhead
      · exact plain_of_freezeMembers path rest error hrest

end

theorem plain_of_metadata {members : List (PyKey × PyValue)} {error : PyError}
    (hfreeze : Metadata.freeze members = .error error) : Plain error := by
  unfold Metadata.freeze at hfreeze
  split at hfreeze
  · next inner hgather =>
    cases hfreeze
    obtain ⟨member, -, hmember⟩ := List.mem_map.mp (gather_eq_error hgather)
    unfold freezeMember at hmember
    split at hmember
    · cases hmember
      exact Or.inr ⟨_, rfl⟩
    · next key _ =>
      split at hmember
      · cases hmember
        exact Or.inl ⟨_, rfl⟩
      · cases hvalue : freezeJsonValue ("metadata." ++ key) member.2 with
        | error inner =>
            rw [hvalue] at hmember
            cases hmember
            exact plain_of_freeze _ member.2 hvalue
        | ok frozen =>
            rw [hvalue] at hmember
            cases hmember
  · cases hfreeze

theorem plain_of_requireText {value message : String} {error : PyError}
    (hrequire : requireText (.text value) message = .error error) : Plain error := by
  unfold requireText at hrequire
  simp only at hrequire
  split at hrequire
  · cases hrequire
    exact Or.inl ⟨_, rfl⟩
  · cases hrequire

/-- The construction of a task raises errors of constructors only. -/
theorem plain_of_define {arguments : TaskArguments} {error : PyError}
    (hdefine : arguments.define = .error error) : Plain error := by
  unfold TaskArguments.define at hdefine
  simp only at hdefine
  split at hdefine
  · next inner hkey =>
    cases hdefine
    exact plain_of_requireText hkey
  split at hdefine
  · cases hdefine
    exact Or.inr ⟨_, rfl⟩
  split at hdefine
  · cases hdefine
    exact Or.inl ⟨_, rfl⟩
  split at hdefine
  · next inner hdependencies =>
    cases hdefine
    obtain ⟨key, -, hkey⟩ := List.mem_map.mp (gather_eq_error hdependencies)
    exact plain_of_requireText hkey
  split at hdefine
  · cases hdefine
    exact Or.inl ⟨_, rfl⟩
  split at hdefine
  · cases hdefine
    exact Or.inl ⟨_, rfl⟩
  split at hdefine
  · cases hdefine
    exact Or.inl ⟨_, rfl⟩
  split at hdefine
  · next inner hmetadata =>
    cases hdefine
    exact plain_of_metadata hmetadata
  · cases hdefine

theorem Plain.not_circular {error : PyError} (hplain : Plain error) (cycle : List String) :
    error ≠ .circularDependency cycle := by
  rcases hplain with ⟨message, rfl⟩ | ⟨message, rfl⟩ <;> simp

end Errors

/-- The dependencies of a task among the known keys. -/
def knownDependencies (tasks : List TaskDefinition) (taskKey : Text) : List Text :=
  match tasks.find? fun task => task.key = taskKey with
  | none => []
  | some task => task.dependencies.filter fun dependency =>
      dependency ∈ tasks.map TaskDefinition.key

/-- `_check_builder_cycles`. -/
def checkBuilderCycles (tasks : List TaskDefinition) : Except PyError Unit :=
  let keys := tasks.map TaskDefinition.key
  match findCycle (knownDependencies tasks) keys.length keys ⟨[], []⟩ with
  | some cycle => .error (.circularDependency (cycle.map Text.value))
  | none => .ok ()

/-- A task depends on another one that is known. -/
def DependsWithin (tasks : List TaskDefinition) (taskKey dependency : Text) : Prop :=
  Depends tasks taskKey dependency ∧ dependency ∈ tasks.map TaskDefinition.key

theorem adjoins_knownDependencies {tasks : List TaskDefinition}
    (hdistinct : (tasks.map TaskDefinition.key).Nodup) :
    Adjoins (knownDependencies tasks) = DependsWithin tasks := by
  funext taskKey dependency
  apply propext
  unfold Adjoins knownDependencies DependsWithin Depends
  constructor
  · intro hmem
    split at hmem
    · cases hmem
    · next task htask =>
      obtain ⟨hdependency, hknown⟩ := List.mem_filter.mp hmem
      exact ⟨⟨task, List.mem_of_find?_eq_some htask, by simpa using List.find?_some htask,
        hdependency⟩, by simpa using hknown⟩
  · rintro ⟨⟨task, htask, rfl, hdependency⟩, hknown⟩
    have hfound : tasks.find? (fun other => other.key = task.key) = some task :=
      Table.find?_of_mem ⟨tasks, hdistinct⟩ htask
    rw [hfound]
    exact List.mem_filter.mpr ⟨hdependency, by simpa using hknown⟩

/-- The search accepts exactly the tasks whose known dependencies have no cycle. -/
theorem checkBuilderCycles_iff {tasks : List TaskDefinition}
    (hdistinct : (tasks.map TaskDefinition.key).Nodup) :
    checkBuilderCycles tasks = .ok () ↔ Acyclic (DependsWithin tasks) := by
  have hneighbors : ∀ taskKey, knownDependencies tasks taskKey ⊆
      tasks.map TaskDefinition.key := by
    intro taskKey dependency hmem
    have hadjoins : Adjoins (knownDependencies tasks) taskKey dependency := hmem
    rw [adjoins_knownDependencies hdistinct] at hadjoins
    exact hadjoins.2
  have hlists : Lists (Adjoins (knownDependencies tasks)) (tasks.map TaskDefinition.key) := by
    rw [adjoins_knownDependencies hdistinct]
    rintro taskKey dependency ⟨⟨task, htask, rfl, -⟩, hknown⟩
    exact ⟨List.mem_map_of_mem htask, hknown⟩
  rw [← adjoins_knownDependencies hdistinct, ← findCycle_eq_none_iff hneighbors hlists]
  unfold checkBuilderCycles
  simp only
  split
  · next cycle hcycle => exact iff_of_false (by simp) (by rw [hcycle]; simp)
  · next hcycle => exact iff_of_true rfl hcycle

/-- `WorkflowDefinitionBuilder`. -/
structure Builder where
  name : String
  version : String
  failurePolicy : FailurePolicy
  metadata : List (PyKey × PyValue)
  tasks : List TaskDeclaration
  taskKeys : List Text
  listed : taskKeys = tasks.map fun task => task.key
  distinct : taskKeys.Nodup

/-- One call of the builder; `add` may be given something that is no task. -/
inductive BuilderCall where
  | task (arguments : TaskArguments)
  | add (task : Option TaskDeclaration)

namespace Builder

/-- `WorkflowDefinitionBuilder.__init__`. -/
def new (name version : String) (failurePolicy : FailurePolicy)
    (metadata : List (PyKey × PyValue)) : Builder where
  name := name
  version := version
  failurePolicy := failurePolicy
  metadata := metadata
  tasks := []
  taskKeys := []
  listed := rfl
  distinct := List.nodup_nil

def containsKey (key : String) : PyError :=
  .valueError ("workflow builder already contains task key " ++ PyError.quoted key)

/-- The end of `task` and `add`: the task is taken in before the search for a cycle. -/
def take (builder : Builder) (task : TaskDeclaration) (hnew : task.key ∉ builder.taskKeys) :
    Builder × Except PyError TaskDeclaration :=
  let taken := { builder with
    tasks := builder.tasks ++ [task]
    taskKeys := builder.taskKeys ++ [task.key]
    listed := by simp [builder.listed]
    distinct := builder.distinct.append (List.nodup_singleton _)
      (List.disjoint_singleton.mpr hnew) }
  (taken, (checkBuilderCycles (taken.tasks.map TaskDeclaration.toTaskDefinition)).map fun _ =>
    task)

/-- `WorkflowDefinitionBuilder.task` and `add`. -/
def call (builder : Builder) : BuilderCall → Builder × Except PyError TaskDeclaration
  | .task arguments =>
      if hold : arguments.key ∈ builder.taskKeys.map Text.value then
        (builder, .error (containsKey arguments.key))
      else
        match hdefine : arguments.define with
        | .error error => (builder, .error error)
        | .ok task => builder.take task fun hmem =>
            hold (key_of_define hdefine ▸ List.mem_map_of_mem hmem)
  | .add none => (builder, .error (.typeError "task must be a TaskDefinition"))
  | .add (some task) =>
      if hold : task.key ∈ builder.taskKeys then
        (builder, .error (containsKey task.key.value))
      else builder.take task hold

/-- The builder after some calls; what they raise is caught. -/
def run (builder : Builder) (calls : List BuilderCall) : Builder :=
  calls.foldl (fun builder call => (builder.call call).1) builder

/-- What some calls return or raise. -/
def outcomes (builder : Builder) : List BuilderCall → List (Except PyError TaskDeclaration)
  | [] => []
  | call :: rest => (builder.call call).2 :: (builder.call call).1.outcomes rest

end Builder

/-- `WorkflowDefinition.__post_init__`. -/
def defineWorkflow (name version : String) (failurePolicy : FailurePolicy)
    (tasks : List TaskDeclaration) (metadata : List (PyKey × PyValue)) :
    Except PyError WorkflowDeclaration :=
  let definitions := tasks.map TaskDeclaration.toTaskDefinition
  match requireText (.text name) "workflow name must not be empty" with
  | .error error => .error error
  | .ok name =>
  match requireText (.text version) "workflow version must not be empty" with
  | .error error => .error error
  | .ok version =>
  if hnonempty : definitions = [] then
    .error (.valueError "workflow must contain at least one task")
  else if hdistinct : ¬ (definitions.map TaskDefinition.key).Nodup then
    .error (.valueError ("workflow declares duplicate task key " ++
      PyError.quoted (firstTwice (tasks.map fun task => task.key.value))))
  else
  match Metadata.freeze metadata with
  | .error error => .error error
  | .ok metadata =>
  match hvalid : validateTasks definitions with
  | .error error => .error error
  | .ok () =>
    .ok {
      definition := {
        name := name
        tasks := definitions
        version := version
        failurePolicy := failurePolicy
        nonempty := hnonempty
        distinct := not_not.mp hdistinct
        valid := hvalid }
      tasks := tasks
      metadata := metadata
      declared := rfl }

/-- `WorkflowDefinitionBuilder.build`. -/
def Builder.build (builder : Builder) : Except PyError WorkflowDeclaration :=
  defineWorkflow builder.name builder.version builder.failurePolicy builder.tasks
    builder.metadata

end PyWorkflowKit.Authoring
