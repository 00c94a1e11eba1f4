import PyWorkflowKit.Domain.Json
import PyWorkflowKit.Planning.Graph

/-!
# Execution plans

The compiled representation of a workflow and the planner that produces it.
-/

namespace PyWorkflowKit.Planning

open PyWorkflowKit.Core PyWorkflowKit.Domain PyWorkflowKit.Policies
open PyWorkflowKit.Authoring

/-- Executor capability required by one planned task. -/
structure ExecutorRequirement where
  executorKey : Text
  workloadKind : Text
  portable : Bool
deriving DecidableEq

/-- Resolved execution semantics of one task definition. -/
structure TaskPlanEntry where
  task : TaskDefinition
  position : Nat
  groupIndex : Nat
  executorRequirement : ExecutorRequirement
  requiredIntegrations : List String
deriving DecidableEq

namespace TaskPlanEntry

def key (entry : TaskPlanEntry) : Text := entry.task.key
def dependencies (entry : TaskPlanEntry) : List Text := entry.task.dependencies
def retryPolicy (entry : TaskPlanEntry) : RetryPolicy := entry.task.retryPolicy
def timeoutPolicy (entry : TaskPlanEntry) : TimeoutPolicy := entry.task.timeoutPolicy
def triggerRule (entry : TaskPlanEntry) : TriggerRule := entry.task.triggerRule

end TaskPlanEntry

/-- The group of a task is the one its entry names. -/
def GroupsAgree (tasks : List TaskPlanEntry) (groups : List (List Text)) : Prop :=
  ∀ group ∈ groups.zipIdx, ∀ taskKey ∈ group.1, ∀ entry ∈ tasks,
    entry.key = taskKey → entry.groupIndex = group.2

instance (tasks : List TaskPlanEntry) (groups : List (List Text)) :
    Decidable (GroupsAgree tasks groups) := by
  unfold GroupsAgree
  infer_instance

/-- Deterministic compiled representation of one workflow definition. -/
structure ExecutionPlan where
  workflowName : Text
  workflowVersion : Text
  definitionFingerprint : Text
  failurePolicy : FailurePolicy
  tasks : List TaskPlanEntry
  topologicalOrder : List Text
  groups : List (List Text)
  requiredCapabilities : List String
  requiredIntegrations : List String
  diagnostics : List Diagnostic
  nonempty : tasks ≠ []
  distinct : (tasks.map TaskPlanEntry.key).Nodup
  contiguous : tasks.map TaskPlanEntry.position = List.range tasks.length
  ordered : topologicalOrder = tasks.map TaskPlanEntry.key
  grouped : groups.flatten = topologicalOrder
  groupsAgree : GroupsAgree tasks groups
deriving DecidableEq

/-- `tuple(sorted(set(values)))`. -/
def sortedSet (values : List String) : List String := sortBy id values.dedup

/-- The checks of the `ExecutionPlan` constructor. -/
def ExecutionPlan.new (workflowName workflowVersion definitionFingerprint : Text)
    (failurePolicy : FailurePolicy) (tasks : List TaskPlanEntry)
    (topologicalOrder : List Text) (groups : List (List Text))
    (requiredCapabilities requiredIntegrations : List String)
    (diagnostics : List Diagnostic) : Except PyError ExecutionPlan :=
  if hnonempty : tasks = [] then
    .error (.valueError "ExecutionPlan must contain at least one task")
  else if hdistinct : ¬ (tasks.map TaskPlanEntry.key).Nodup then
    .error (.valueError "ExecutionPlan task keys must be unique")
  else if hcontiguous :
      tasks.map TaskPlanEntry.position ≠ List.range tasks.length then
    .error (.valueError
      "ExecutionPlan task positions must be contiguous from zero")
  else if hordered : topologicalOrder ≠ tasks.map TaskPlanEntry.key then
    .error (.valueError
      "ExecutionPlan task order must match topological_order exactly")
  else if hgrouped : groups.flatten ≠ topologicalOrder then
    .error (.valueError
      "ExecutionPlan groups must flatten to topological_order")
  else if hagree : ¬ GroupsAgree tasks groups then
    .error (.valueError "task has inconsistent group_index")
  else
    .ok {
      workflowName := workflowName
      workflowVersion := workflowVersion
      definitionFingerprint := definitionFingerprint
      failurePolicy := failurePolicy
      tasks := tasks
      topologicalOrder := topologicalOrder
      groups := groups
      requiredCapabilities := sortedSet requiredCapabilities
      requiredIntegrations := sortedSet requiredIntegrations
      diagnostics := diagnostics
      nonempty := hnonempty
      distinct := not_not.mp hdistinct
      contiguous := not_not.mp hcontiguous
      ordered := not_not.mp hordered
      grouped := not_not.mp hgrouped
      groupsAgree := not_not.mp hagree }

theorem ExecutionPlan.tasks_of_new {workflowName workflowVersion : Text}
    {definitionFingerprint : Text} {failurePolicy : FailurePolicy}
    {tasks : List TaskPlanEntry} {topologicalOrder : List Text}
    {groups : List (List Text)} {requiredCapabilities requiredIntegrations : List String}
    {diagnostics : List Diagnostic} {plan : ExecutionPlan}
    (hplan : ExecutionPlan.new workflowName workflowVersion definitionFingerprint
      failurePolicy tasks topologicalOrder groups requiredCapabilities
      requiredIntegrations diagnostics = .ok plan) : plan.tasks = tasks := by
  unfold ExecutionPlan.new at hplan
  split at hplan
  · cases hplan
  split at hplan
  · cases hplan
  split at hplan
  · cases hplan
  split at hplan
  · cases hplan
  split at hplan
  · cases hplan
  split at hplan
  · cases hplan
  cases hplan
  rfl

/-- An attribute that must be a non-empty string. -/
def requireText (declared : Attribute) (message : String) : Except PyError Text :=
  match declared with
  | .other => .error (.valueError message)
  | .text value =>
      match Text.ofString? value with
      | none => .error (.valueError message)
      | some text => .ok text

/-- `_payload_kind`. -/
def payloadKind (kind : Option Attribute) : Except PyError Text :=
  requireText (kind.getD (.text "unknown"))
    "workload fingerprint payload kind must be a non-empty string"

/-- `_executor_requirement`. -/
def executorRequirement (task : TaskDefinition) : Except PyError ExecutorRequirement := do
  let kind ← workloadPayloadKind task.workload
  let workloadKind ← payloadKind kind
  let executorKey ←
    match task.workload with
    | .localCallable _ _ => .ok (.lit "inline")
    | .registered workload => .ok (workload.executorKey.getD (.lit "inline"))
    | .descriptor workload =>
        match workload.executorKey with
        | none => .ok (.lit "inline")
        | some declared =>
            requireText declared
              ("task " ++ PyError.quoted task.key.value ++
                " declares an invalid executor_key")
  .ok {
    executorKey := executorKey
    workloadKind := workloadKind
    portable := workloadPortability task.workload = .portable }

/-- `_integration_requirements`. -/
def integrationRequirements (task : TaskDefinition) : Except PyError (List String) :=
  let byKind (workloadKind : String) : List String :=
    ["pyingestkit", "pytransformkit"].filter fun integration =>
      integration.toList.isPrefixOf workloadKind.toLower.toList
  match task.workload with
  | .localCallable _ _ => .ok []
  | .registered _ => .ok (byKind "registered")
  | .descriptor workload =>
      match workload.integrationKey with
      | none => .ok (sortedSet (byKind workload.workloadKind))
      | some declared => do
          let explicit ← requireText declared
            ("task " ++ PyError.quoted task.key.value ++
              " declares an invalid integration_key")
          .ok (sortedSet (explicit.value :: byKind workload.workloadKind))

/-- The diagnostic that opens every plan. -/
def topologyDiagnostic (taskCount edgeCount : Nat) : Diagnostic where
  code := .lit "PWK-PLAN-001"
  severity := .info
  summary := .lit "workflow topology validated"
  details := [("task_count", toString taskCount), ("edge_count", toString edgeCount)]
  workflowRunId := none
  taskRunId := none
  taskAttemptId := none
  correlationId := none
  sourceComponent := some (.lit "planning")
  decisionContext := some (.lit "compile")
  relatedPolicy := none
  sourceFramework := .lit "pyworkflowkit"

/-- The warning about a task whose workload is process-local. -/
def portabilityDiagnostic (taskKey : Text) : Diagnostic where
  code := .lit "PWK-PLAN-PORTABILITY-001"
  severity := .warning
  summary := .lit "task workload is process-local and non-portable"
  details := [("task_key", taskKey.value)]
  workflowRunId := none
  taskRunId := none
  taskAttemptId := none
  correlationId := none
  sourceComponent := some (.lit "planning")
  decisionContext := some (.lit "portability")
  relatedPolicy := none
  sourceFramework := .lit "pyworkflowkit"

/-- The body of the planner's loop for the task at one position. -/
def planEntry (workflow : WorkflowDefinition) (position groupIndex : Nat)
    (taskKey : Text) : Except PyError TaskPlanEntry :=
  match workflow.tasks.find? fun task => task.key = taskKey with
  | none => .error (.keyError taskKey.value)
  | some task => do
      let requirement ← executorRequirement task
      let integrations ← integrationRequirements task
      .ok ⟨task, position, groupIndex, requirement, integrations⟩

/-- The planner's nested loops over the groups. -/
def planEntries (workflow : WorkflowDefinition) (groups : List (List Text)) :
    Except PyError (List TaskPlanEntry) :=
  let members := groups.zipIdx.flatMap fun group =>
    group.1.map fun taskKey => (taskKey, group.2)
  gather (members.zipIdx.map fun member =>
    planEntry workflow member.2 member.1.2 member.1.1)

/-- `WorkflowPlanner.compile`, over the fingerprint of definitions. -/
def compile (fingerprint : WorkflowDefinition → Text) (workflow : WorkflowDefinition) :
    Except PyError ExecutionPlan := do
  validateTasks workflow.tasks
  let graph := DependencyGraph.ofWorkflow workflow
  let groups ← graph.topologicalLayers
  let entries ← planEntries workflow groups
  let capabilities := entries.flatMap fun entry =>
    ["executor:" ++ entry.executorRequirement.executorKey.value,
      "workload:" ++ entry.executorRequirement.workloadKind.value]
  let warnings := (entries.filter fun entry =>
    !entry.executorRequirement.portable).map fun entry =>
      portabilityDiagnostic entry.key
  ExecutionPlan.new workflow.name workflow.version (fingerprint workflow)
    workflow.failurePolicy entries groups.flatten groups capabilities
    (entries.flatMap TaskPlanEntry.requiredIntegrations)
    (topologyDiagnostic workflow.tasks.length graph.edgeCount :: warnings)

/-- Every dependency of an entry is the key of an earlier entry. -/
def DependenciesFirst : List Text → List TaskPlanEntry → Prop
  | _, [] => True
  | before, entry :: rest =>
      (∀ dependency ∈ entry.dependencies, dependency ∈ before) ∧
        DependenciesFirst (before ++ [entry.key]) rest

/-- The dependencies of an entry are the keys of entries before it. -/
theorem DependenciesFirst.dependency {known : List Text} {before after : List TaskPlanEntry}
    {entry : TaskPlanEntry} (hfirst : DependenciesFirst known (before ++ entry :: after)) :
    ∀ dependency ∈ entry.dependencies,
      dependency ∈ known ++ before.map TaskPlanEntry.key := by
  induction before generalizing known with
  | nil => simpa using hfirst.1
  | cons first before ih => simpa using ih hfirst.2

/-- What follows for a task from its dependencies holds of all tasks. -/
theorem DependenciesFirst.induction {entries : List TaskPlanEntry}
    (hfirst : DependenciesFirst [] entries) (holds : TaskPlanEntry → Prop)
    (hstep : ∀ entry ∈ entries, (∀ dependency ∈ entry.dependencies,
      ∃ other ∈ entries, other.key = dependency ∧ holds other) → holds entry) :
    ∀ entry ∈ entries, holds entry := by
  have hrest : ∀ rest before, entries = before ++ rest → (∀ entry ∈ before, holds entry) →
      DependenciesFirst (before.map TaskPlanEntry.key) rest →
      ∀ entry ∈ entries, holds entry := by
    intro rest
    induction rest with
    | nil =>
        intro before hentries hbefore _
        rw [hentries, List.append_nil]
        exact hbefore
    | cons entry rest ih =>
        intro before hentries hbefore hthis
        have hentry : holds entry := by
          apply hstep entry (by simp [hentries])
          intro dependency hdependency
          obtain ⟨other, hother, hkey⟩ := List.mem_map.mp (hthis.1 dependency hdependency)
          refine ⟨other, ?_, hkey, hbefore other hother⟩
          rw [hentries]
          exact List.mem_append_left _ hother
        apply ih (before ++ [entry])
        · rw [hentries, List.append_assoc, List.singleton_append]
        · intro other hother
          rcases List.mem_append.mp hother with hmem | hmem
          · exact hbefore other hmem
          · rw [List.mem_singleton.mp hmem]
            exact hentry
        · rw [List.map_append]
          exact hthis.2
  exact hrest entries [] rfl (by simp) hfirst

/-- The graph of a workflow knows the dependencies of its tasks only. -/
theorem dependencies_of_unknown (workflow : WorkflowDefinition) (taskKey : Text)
    (hunknown : taskKey ∉ (DependencyGraph.ofWorkflow workflow).taskKeys) :
    (DependencyGraph.ofWorkflow workflow).dependencies taskKey = [] := by
  have hnone : workflow.tasks.find? (fun task => task.key = taskKey) = none := by
    rw [List.find?_eq_none]
    intro task htask heq
    have hkey : task.key = taskKey := by simpa using heq
    exact hunknown (by
      simpa [DependencyGraph.ofWorkflow] using ⟨task, htask, hkey⟩)
  simp [DependencyGraph.ofWorkflow, hnone]

/-- When the planner's loop makes an entry, and which. -/
theorem planEntry_ok_iff {workflow : WorkflowDefinition} {position groupIndex : Nat}
    {taskKey : Text} {entry : TaskPlanEntry} :
    planEntry workflow position groupIndex taskKey = .ok entry ↔
      ∃ task requirement integrations,
        workflow.tasks.find? (fun task => task.key = taskKey) = some task ∧
        executorRequirement task = .ok requirement ∧
        integrationRequirements task = .ok integrations ∧
        entry = ⟨task, position, groupIndex, requirement, integrations⟩ := by
  unfold planEntry
  constructor
  · intro hentry
    split at hentry
    · cases hentry
    · next task htask =>
      obtain ⟨requirement, hrequirement, hrest⟩ := bind_eq_ok hentry
      obtain ⟨integrations, hintegrations, hmade⟩ := bind_eq_ok hrest
      exact ⟨task, requirement, integrations, htask, hrequirement, hintegrations,
        (Except.ok.inj hmade).symm⟩
  · rintro ⟨task, requirement, integrations, htask, hrequirement, hintegrations, rfl⟩
    rw [htask]
    simp only [hrequirement, hintegrations, bind, Except.bind]

theorem planEntry_eq_ok {workflow : WorkflowDefinition} {position groupIndex : Nat}
    {taskKey : Text} {entry : TaskPlanEntry}
    (hentry : planEntry workflow position groupIndex taskKey = .ok entry) :
    entry.key = taskKey ∧ ∀ dependency ∈ entry.dependencies,
      dependency ∈ (DependencyGraph.ofWorkflow workflow).dependencies taskKey := by
  obtain ⟨task, requirement, integrations, htask, -, -, rfl⟩ := planEntry_ok_iff.mp hentry
  have hkey : task.key = taskKey := by simpa using List.find?_some htask
  refine ⟨hkey, fun dependency hdependency => ?_⟩
  have hdependency' : dependency ∈ task.dependencies := hdependency
  simpa [DependencyGraph.ofWorkflow, htask] using hdependency'

/-- An entry holds the task of the workflow that has its key. -/
theorem find?_of_planEntry {workflow : WorkflowDefinition} {position groupIndex : Nat}
    {taskKey : Text} {entry : TaskPlanEntry}
    (hentry : planEntry workflow position groupIndex taskKey = .ok entry) :
    workflow.tasks.find? (fun task => task.key = entry.key) = some entry.task := by
  have hkey := (planEntry_eq_ok hentry).1
  obtain ⟨task, requirement, integrations, htask, -, -, rfl⟩ := planEntry_ok_iff.mp hentry
  rw [hkey, htask]

/-- Entries planned for keys in dependency order stand in dependency order. -/
theorem dependenciesFirst_of_forall₂ {workflow : WorkflowDefinition}
    {before : List Text} {keys : List Text} {entries : List TaskPlanEntry}
    (hentries : List.Forall₂ (fun taskKey entry => entry.key = taskKey ∧
      ∀ dependency ∈ entry.dependencies,
        dependency ∈ (DependencyGraph.ofWorkflow workflow).dependencies taskKey)
      keys entries)
    (hrespects : (DependencyGraph.ofWorkflow workflow).Respects before keys) :
    DependenciesFirst before entries := by
  induction hentries generalizing before with
  | nil => trivial
  | cons hentry hrest ih =>
      refine ⟨fun dependency hdependency =>
        hrespects.1 dependency (hentry.2 dependency hdependency), ?_⟩
      rw [hentry.1]
      exact ih hrespects.2

/-- The keys that the planner plans entries for. -/
theorem planEntries_eq_ok {workflow : WorkflowDefinition} {groups : List (List Text)}
    {entries : List TaskPlanEntry} (hentries : planEntries workflow groups = .ok entries) :
    List.Forall₂ (fun taskKey entry => entry.key = taskKey ∧
      ∀ dependency ∈ entry.dependencies,
        dependency ∈ (DependencyGraph.ofWorkflow workflow).dependencies taskKey)
      groups.flatten entries := by
  have hplanned := forall₂_of_gather hentries
  rw [List.forall₂_map_left_iff] at hplanned
  have hgroup : ∀ group : List Text × Nat,
      (group.1.map fun taskKey => (taskKey, group.2)).map Prod.fst = group.1 := by
    intro group
    rw [List.map_map]
    exact List.map_id _
  have hkeys : groups.flatten = (groups.zipIdx.flatMap fun group =>
      group.1.map fun taskKey => (taskKey, group.2)).zipIdx.map fun member =>
        member.1.1 := by
    calc
      groups.flatten = (groups.zipIdx.map Prod.fst).flatten := by
        rw [List.zipIdx_map_fst]
      _ = (groups.zipIdx.flatMap fun group =>
          group.1.map fun taskKey => (taskKey, group.2)).map Prod.fst := by
        rw [List.map_flatMap, ← List.flatMap_def]
        simp only [hgroup]
      _ = ((groups.zipIdx.flatMap fun group =>
          group.1.map fun taskKey => (taskKey, group.2)).zipIdx.map Prod.fst).map
            Prod.fst := by
        rw [List.zipIdx_map_fst]
      _ = _ := by
        rw [List.map_map]
        rfl
  rw [hkeys, List.forall₂_map_left_iff]
  exact hplanned.imp fun _ _ => planEntry_eq_ok

/-- The planner's entries are planned for the layers of the workflow. -/
theorem planEntries_of_compile {fingerprint : WorkflowDefinition → Text}
    {workflow : WorkflowDefinition} {plan : ExecutionPlan}
    (hplan : compile fingerprint workflow = .ok plan) :
    ∃ groups, (DependencyGraph.ofWorkflow workflow).topologicalLayers = .ok groups ∧
      planEntries workflow groups = .ok plan.tasks := by
  unfold compile at hplan
  rw [workflow.valid] at hplan
  simp only [bind, Except.bind] at hplan
  cases hgroups : (DependencyGraph.ofWorkflow workflow).topologicalLayers with
  | error error => simp [hgroups] at hplan
  | ok groups =>
      simp only [hgroups] at hplan
      cases hentries : planEntries workflow groups with
      | error error => simp [hentries] at hplan
      | ok entries =>
          simp only [hentries] at hplan
          refine ⟨groups, rfl, ?_⟩
          rw [ExecutionPlan.tasks_of_new hplan, hentries]

/-- The planner puts every task after its dependencies. -/
theorem dependenciesFirst_of_compile {fingerprint : WorkflowDefinition → Text}
    {workflow : WorkflowDefinition} {plan : ExecutionPlan}
    (hplan : compile fingerprint workflow = .ok plan) :
    DependenciesFirst [] plan.tasks := by
  obtain ⟨groups, hgroups, hentries⟩ := planEntries_of_compile hplan
  exact dependenciesFirst_of_forall₂ (planEntries_eq_ok hentries)
    (DependencyGraph.respects_topologicalLayers
      (DependencyGraph.simple_ofWorkflow workflow)
      (dependencies_of_unknown workflow) hgroups)

/-- Every entry of a plan holds the task of the workflow that has its key. -/
theorem find?_of_compile {fingerprint : WorkflowDefinition → Text}
    {workflow : WorkflowDefinition} {plan : ExecutionPlan}
    (hplan : compile fingerprint workflow = .ok plan) :
    ∀ entry ∈ plan.tasks,
      workflow.tasks.find? (fun task => task.key = entry.key) = some entry.task := by
  obtain ⟨groups, _, hentries⟩ := planEntries_of_compile hplan
  intro entry hentry
  have hplanned := mem_of_gather hentries hentry
  obtain ⟨member, _, hmember⟩ := List.mem_map.mp hplanned
  exact find?_of_planEntry hmember

end PyWorkflowKit.Planning
