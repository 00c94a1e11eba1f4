import PyWorkflowKit.Authoring.Acyclicity
import PyWorkflowKit.Planning.Layers
import PyWorkflowKit.Planning.Plan

/-!
# What the planner makes of a definition

The planner lists every task once, by the length of the longest chain of dependencies that
ends in it and then by key.  It refuses what the cycle check of a definition refuses.
-/

namespace PyWorkflowKit.Planning

open PyWorkflowKit.Core PyWorkflowKit.Domain PyWorkflowKit.Policies
open PyWorkflowKit.Authoring

namespace DependencyGraph

/-- `_DependencyGraph.__init__`, on the tasks. -/
def ofTasks (tasks : List TaskDefinition) : DependencyGraph where
  taskKeys := sortBy Text.value (tasks.map TaskDefinition.key)
  dependencies taskKey :=
    match tasks.find? fun task => task.key = taskKey with
    | some task => sortBy Text.value task.dependencies
    | none => []

theorem ofWorkflow_eq (workflow : WorkflowDefinition) :
    ofWorkflow workflow = ofTasks workflow.tasks := rfl

theorem mem_taskKeys_ofTasks (tasks : List TaskDefinition) (taskKey : Text) :
    taskKey ∈ (ofTasks tasks).taskKeys ↔ taskKey ∈ tasks.map TaskDefinition.key :=
  mem_sortBy _ _ _

variable {tasks : List TaskDefinition}

theorem find?_of_mem (hdistinct : (tasks.map TaskDefinition.key).Nodup) {task : TaskDefinition}
    (htask : task ∈ tasks) : tasks.find? (fun other => other.key = task.key) = some task :=
  Table.find?_of_mem ⟨tasks, hdistinct⟩ htask

/-- The graph relates what the declarations relate. -/
theorem needs_ofTasks (hdistinct : (tasks.map TaskDefinition.key).Nodup) :
    (ofTasks tasks).Needs = Depends tasks := by
  funext taskKey dependency
  apply propext
  unfold Needs ofTasks
  simp only
  constructor
  · intro hneeds
    split at hneeds
    · next task htask =>
      exact ⟨task, List.mem_of_find?_eq_some htask, by simpa using List.find?_some htask,
        (mem_sortBy _ _ _).mp hneeds⟩
    · cases hneeds
  · rintro ⟨task, htask, rfl, hdependency⟩
    rw [find?_of_mem hdistinct htask]
    exact (mem_sortBy _ _ _).mpr hdependency

theorem simple_ofTasks (hdistinct : (tasks.map TaskDefinition.key).Nodup) :
    (ofTasks tasks).Simple where
  keys := nodup_sortBy _ hdistinct
  dependencies taskKey := by
    unfold ofTasks
    simp only
    split
    · next task _ => exact nodup_sortBy _ task.distinct
    · exact List.nodup_nil

theorem closed_ofTasks (tasks : List TaskDefinition) (taskKey : Text)
    (hunknown : taskKey ∉ (ofTasks tasks).taskKeys) :
    (ofTasks tasks).dependencies taskKey = [] := by
  rw [mem_taskKeys_ofTasks] at hunknown
  unfold ofTasks
  simp only
  split
  · next task htask =>
    have hkey : task.key = taskKey := by simpa using List.find?_some htask
    exact absurd (hkey ▸ List.mem_map_of_mem (List.mem_of_find?_eq_some htask)) hunknown
  · rfl

variable {graph : DependencyGraph}

/-- The layers that the planner's rounds produce. -/
def layers (graph : DependencyGraph) : List (List Text) :=
  (graph.layersFrom (graph.taskKeys.length + 1)
    (fun taskKey => ((graph.dependencies taskKey).length : ℤ))
    (sortBy Text.value (graph.taskKeys.filter fun taskKey =>
      ((graph.dependencies taskKey).length : ℤ) = 0))).1

theorem peels_layers (hsimple : graph.Simple)
    (hclosed : ∀ key, key ∉ graph.taskKeys → graph.dependencies key = []) :
    Peels graph.Needs graph.taskKeys [] graph.layers :=
  peels_layersFrom hsimple hclosed _ (sweep_start hsimple) (by simp)

theorem sorted_layers (hsimple : graph.Simple)
    (hclosed : ∀ key, key ∉ graph.taskKeys → graph.dependencies key = []) :
    ∀ layer ∈ graph.layers, layer ≠ [] ∧
      layer.Pairwise fun left right => left.value < right.value :=
  sorted_layersFrom hsimple hclosed _ (sweep_start hsimple)

theorem nodup_flatten_layers (hsimple : graph.Simple)
    (hclosed : ∀ key, key ∉ graph.taskKeys → graph.dependencies key = []) :
    graph.layers.flatten.Nodup := by
  have hlayers : ∀ layer ∈ graph.layers, layer.Nodup := by
    intro layer hlayer
    apply ((sorted_layers hsimple hclosed layer hlayer).2).imp
    intro left right hlt heq
    rw [heq] at hlt
    exact lt_irrefl _ hlt
  simpa using (peels_layers hsimple hclosed).nodup hlayers List.nodup_nil

/-- The planner accepts its layers when they list all tasks. -/
theorem topologicalLayers_eq_ok_iff (hsimple : graph.Simple)
    (hclosed : ∀ key, key ∉ graph.taskKeys → graph.dependencies key = [])
    {groups : List (List Text)} :
    graph.topologicalLayers = .ok groups ↔
      groups = graph.layers ∧ graph.taskKeys ⊆ graph.layers.flatten := by
  have hnodup := nodup_flatten_layers hsimple hclosed
  have hsubset := (peels_layers hsimple hclosed).subset
  have hlength : graph.layers.flatten.length = graph.taskKeys.length ↔
      graph.taskKeys ⊆ graph.layers.flatten := by
    constructor
    · intro hsame
      exact ((hnodup.subperm hsubset).perm_of_length_le hsame.ge).symm.subset
    · intro hall
      exact le_antisymm (hnodup.subperm hsubset).length_le
        (hsimple.keys.subperm hall).length_le
  rw [← hlength]
  unfold topologicalLayers layers
  simp only
  split
  · next hshort => exact iff_of_false (by simp) fun hall => hshort hall.2
  · next hall =>
    rw [not_not] at hall
    constructor
    · intro hgroups
      exact ⟨(Except.ok.inj hgroups).symm, hall⟩
    · rintro ⟨rfl, -⟩
      rfl

/-- The planner accepts its layers exactly when the dependencies have no cycle. -/
theorem exists_topologicalLayers_iff (hsimple : graph.Simple)
    (hclosed : ∀ key, key ∉ graph.taskKeys → graph.dependencies key = [])
    (hlists : Lists graph.Needs graph.taskKeys) :
    (∃ groups, graph.topologicalLayers = .ok groups) ↔ Acyclic graph.Needs := by
  rw [← (peels_layers hsimple hclosed).subset_iff_acyclic hlists]
  simp only [topologicalLayers_eq_ok_iff hsimple hclosed, exists_eq_left]

end DependencyGraph

/-- What the planner reads of the workload of a task is there. -/
def Plannable (task : TaskDefinition) : Prop :=
  (∃ requirement, executorRequirement task = .ok requirement) ∧
    ∃ integrations, integrationRequirements task = .ok integrations

section Entries

/-- The tasks of groups, with the index of their group. -/
def members (groups : List (List Text)) : List (Text × Nat) :=
  groups.zipIdx.flatMap fun group => group.1.map fun taskKey => (taskKey, group.2)

theorem mem_members_iff {groups : List (List Text)} {taskKey : Text} {index : Nat} :
    (taskKey, index) ∈ members groups ↔ ∃ group, groups[index]? = some group ∧
      taskKey ∈ group := by
  simp [members, List.mem_zipIdx_iff_getElem?]

theorem map_fst_members (groups : List (List Text)) :
    (members groups).map Prod.fst = groups.flatten := by
  have hgroup : ∀ group : List Text × Nat,
      (group.1.map fun taskKey => (taskKey, group.2)).map Prod.fst = group.1 := by
    intro group
    rw [List.map_map]
    exact List.map_id _
  calc
    (members groups).map Prod.fst = groups.zipIdx.flatMap Prod.fst := by
      unfold members
      rw [List.map_flatMap]
      simp only [hgroup]
    _ = (groups.zipIdx.map Prod.fst).flatten := List.flatMap_def
    _ = groups.flatten := by rw [List.zipIdx_map_fst]

/-- Tasks of sorted groups come by group and then by key. -/
theorem pairwise_members {groups : List (List Text)}
    (hsorted : ∀ group ∈ groups, group.Pairwise fun left right => left.value < right.value) :
    (members groups).Pairwise fun left right =>
      left.2 < right.2 ∨ left.2 = right.2 ∧ left.1.value < right.1.value := by
  unfold members
  rw [List.pairwise_flatMap]
  constructor
  · intro group hgroup
    rw [List.pairwise_map]
    exact (hsorted group.1 (List.fst_mem_of_mem_zipIdx hgroup)).imp fun hlt => Or.inr ⟨rfl, hlt⟩
  · have hindices : (groups.zipIdx.map Prod.snd).Pairwise fun left right => left < right := by
      rw [List.zipIdx_map_snd]
      exact List.pairwise_lt_range'
    rw [List.pairwise_map] at hindices
    apply hindices.imp
    intro left right hlt first hfirst second hsecond
    obtain ⟨-, -, rfl⟩ := List.mem_map.mp hfirst
    obtain ⟨-, -, rfl⟩ := List.mem_map.mp hsecond
    exact Or.inl hlt

variable {workflow : WorkflowDefinition} {groups : List (List Text)}
  {entries : List TaskPlanEntry}

/-- The entries stand where the groups put their tasks. -/
theorem places_of_planEntries (hentries : planEntries workflow groups = .ok entries) :
    entries.map (fun entry => ((entry.key, entry.groupIndex), entry.position)) =
      (members groups).zipIdx := by
  have hplanned := forall₂_of_gather hentries
  rw [List.forall₂_map_left_iff] at hplanned
  have hplaces : List.Forall₂ (fun place (entry : TaskPlanEntry) =>
      place = ((entry.key, entry.groupIndex), entry.position)) (members groups).zipIdx
      entries := by
    apply hplanned.imp
    intro place entry hentry
    obtain ⟨task, _, _, htask, -, -, rfl⟩ := planEntry_ok_iff.mp hentry
    have hkey : task.key = place.1.1 := by simpa using List.find?_some htask
    exact Prod.ext (Prod.ext hkey.symm rfl) rfl
  rw [← List.forall₂_map_right_iff (f := fun entry : TaskPlanEntry =>
    ((entry.key, entry.groupIndex), entry.position)), List.forall₂_eq_eq_eq] at hplaces
  exact hplaces.symm

theorem exists_planEntry_iff {position groupIndex : Nat} {task : TaskDefinition}
    (htask : task ∈ workflow.tasks) :
    (∃ entry, planEntry workflow position groupIndex task.key = .ok entry) ↔
      Plannable task := by
  simp only [planEntry_ok_iff, DependencyGraph.find?_of_mem workflow.distinct htask]
  constructor
  · rintro ⟨_, other, requirement, integrations, hother, hrequirement, hintegrations, -⟩
    obtain rfl := Option.some.inj hother
    exact ⟨⟨requirement, hrequirement⟩, integrations, hintegrations⟩
  · rintro ⟨⟨requirement, hrequirement⟩, integrations, hintegrations⟩
    exact ⟨_, task, requirement, integrations, rfl, hrequirement, hintegrations, rfl⟩

/-- The planner makes entries when it can plan every task that it meets. -/
theorem exists_planEntries_iff (hgroups : groups.flatten.Perm
    (workflow.tasks.map TaskDefinition.key)) :
    (∃ entries, planEntries workflow groups = .ok entries) ↔
      ∀ task ∈ workflow.tasks, Plannable task := by
  have hkeys : (members groups).zipIdx.map (fun member => member.1.1) = groups.flatten := by
    rw [← map_fst_members, ← List.zipIdx_map_fst 0 (members groups), List.map_map,
      List.zipIdx_map_fst]
    rfl
  unfold planEntries
  rw [exists_gather_iff]
  constructor
  · intro hall task htask
    have hkey := hgroups.mem_iff.mpr (List.mem_map_of_mem htask)
    rw [← hkeys] at hkey
    obtain ⟨member, hmember, hthis⟩ := List.mem_map.mp hkey
    rw [← exists_planEntry_iff htask, ← hthis]
    exact hall _ (List.mem_map_of_mem hmember)
  · intro hall result hresult
    obtain ⟨member, hmember, rfl⟩ := List.mem_map.mp hresult
    have hkey : member.1.1 ∈ groups.flatten := by
      rw [← hkeys]
      exact List.mem_map_of_mem (f := fun member : (Text × Nat) × Nat => member.1.1) hmember
    obtain ⟨task, htask, hthis⟩ := List.mem_map.mp (hgroups.mem_iff.mp hkey)
    rw [← hthis]
    exact (exists_planEntry_iff htask).mpr (hall task htask)

/-- What the entries say about themselves. -/
theorem keys_of_planEntries (hentries : planEntries workflow groups = .ok entries) :
    entries.map TaskPlanEntry.key = groups.flatten ∧
      entries.map (fun entry => (entry.key, entry.groupIndex)) = members groups ∧
      entries.map TaskPlanEntry.position = List.range entries.length := by
  have hplaces := places_of_planEntries hentries
  have hmembers : entries.map (fun entry => (entry.key, entry.groupIndex)) =
      members groups := by
    have hfirst := congrArg (List.map Prod.fst) hplaces
    rwa [List.zipIdx_map_fst, List.map_map] at hfirst
  refine ⟨?_, hmembers, ?_⟩
  · rw [← map_fst_members, ← hmembers, List.map_map]
    rfl
  · have hsecond := congrArg (List.map Prod.snd) hplaces
    rw [List.zipIdx_map_snd, List.map_map, ← hmembers, List.length_map,
      ← List.range_eq_range'] at hsecond
    exact hsecond

/-- Entries of groups without repetition agree with them. -/
theorem groupsAgree_of_planEntries (hdistinct : groups.flatten.Nodup)
    (hentries : planEntries workflow groups = .ok entries) : GroupsAgree entries groups := by
  obtain ⟨-, hmembers, -⟩ := keys_of_planEntries hentries
  rintro ⟨group, index⟩ hgroup taskKey hkey entry hentry rfl
  have hplace : (entry.key, entry.groupIndex) ∈ members groups := by
    rw [← hmembers]
    exact List.mem_map_of_mem (f := fun entry : TaskPlanEntry => (entry.key, entry.groupIndex))
      hentry
  have hthis : (entry.key, index) ∈ members groups :=
    mem_members_iff.mpr ⟨group, List.mem_zipIdx_iff_getElem?.mp hgroup, hkey⟩
  rw [← map_fst_members] at hdistinct
  exact congrArg Prod.snd (List.inj_on_of_nodup_map hdistinct hplace hthis rfl)

end Entries

section Plans

/-- What the planner puts into a plan besides its entries. -/
structure Compiled (fingerprint : Text) (workflow : WorkflowDefinition)
    (plan : ExecutionPlan) : Prop where
  workflowName : plan.workflowName = workflow.name
  workflowVersion : plan.workflowVersion = workflow.version
  definitionFingerprint : plan.definitionFingerprint = fingerprint
  failurePolicy : plan.failurePolicy = workflow.failurePolicy
  groups : plan.groups = (DependencyGraph.ofWorkflow workflow).layers
  entries : planEntries workflow plan.groups = .ok plan.tasks
  requiredCapabilities : plan.requiredCapabilities =
    sortedSet (plan.tasks.flatMap fun entry =>
      ["executor:" ++ entry.executorRequirement.executorKey.value,
        "workload:" ++ entry.executorRequirement.workloadKind.value])
  requiredIntegrations : plan.requiredIntegrations =
    sortedSet (plan.tasks.flatMap TaskPlanEntry.requiredIntegrations)
  diagnostics : plan.diagnostics =
    topologyDiagnostic workflow.tasks.length (DependencyGraph.ofWorkflow workflow).edgeCount ::
      (plan.tasks.filter fun entry => !entry.executorRequirement.portable).map fun entry =>
        portabilityDiagnostic entry.key

/-- A definition has no unknown dependency and no cycle. -/
theorem known_of_valid (workflow : WorkflowDefinition) : Known workflow.tasks :=
  fun _ htask _ hdependency => workflow.dependency_known htask hdependency

theorem acyclic_of_valid (workflow : WorkflowDefinition) : Acyclic (Depends workflow.tasks) := by
  apply (validateAcyclic_iff workflow.distinct (known_of_valid workflow)).mp
  have hvalid := workflow.valid
  unfold validateTasks at hvalid
  simp only at hvalid
  split at hvalid
  · cases hvalid
  · exact hvalid

variable (workflow : WorkflowDefinition)

theorem simple_of_valid : (DependencyGraph.ofWorkflow workflow).Simple :=
  DependencyGraph.simple_ofTasks workflow.distinct

theorem closed_of_valid : ∀ key, key ∉ (DependencyGraph.ofWorkflow workflow).taskKeys →
    (DependencyGraph.ofWorkflow workflow).dependencies key = [] :=
  DependencyGraph.closed_ofTasks workflow.tasks

theorem needs_of_valid :
    (DependencyGraph.ofWorkflow workflow).Needs = Depends workflow.tasks :=
  DependencyGraph.needs_ofTasks workflow.distinct

theorem lists_of_valid : Lists (Depends workflow.tasks)
    (DependencyGraph.ofWorkflow workflow).taskKeys := by
  intro taskKey dependency hdepends
  rw [DependencyGraph.ofWorkflow_eq, DependencyGraph.mem_taskKeys_ofTasks,
    DependencyGraph.mem_taskKeys_ofTasks]
  exact (known_of_valid workflow).lists taskKey dependency hdepends

/-- The layers of a definition list its tasks. -/
theorem perm_layers : (DependencyGraph.ofWorkflow workflow).layers.flatten.Perm
    (workflow.tasks.map TaskDefinition.key) := by
  have hpeels := DependencyGraph.peels_layers (simple_of_valid workflow)
    (closed_of_valid workflow)
  have hnodup := DependencyGraph.nodup_flatten_layers (simple_of_valid workflow)
    (closed_of_valid workflow)
  have hall := (hpeels.subset_iff_acyclic (by
    rw [needs_of_valid]
    exact lists_of_valid workflow)).mpr (by
      rw [needs_of_valid]
      exact acyclic_of_valid workflow)
  have hkeys := (hnodup.subperm hpeels.subset).perm_of_length_le
    ((simple_of_valid workflow).keys.subperm hall).length_le
  exact hkeys.trans (sortBy_perm _ _)

theorem topologicalLayers_of_valid : (DependencyGraph.ofWorkflow workflow).topologicalLayers =
    .ok (DependencyGraph.ofWorkflow workflow).layers := by
  apply (DependencyGraph.topologicalLayers_eq_ok_iff (simple_of_valid workflow)
    (closed_of_valid workflow)).mpr
  refine ⟨rfl, fun taskKey hkey => (perm_layers workflow).mem_iff.mpr ?_⟩
  exact (DependencyGraph.mem_taskKeys_ofTasks workflow.tasks taskKey).mp hkey

/-- What the checks of a plan leave as it is given. -/
theorem fields_of_new {workflowName workflowVersion definitionFingerprint : Text}
    {failurePolicy : FailurePolicy} {tasks : List TaskPlanEntry} {topologicalOrder : List Text}
    {groups : List (List Text)} {requiredCapabilities requiredIntegrations : List String}
    {diagnostics : List Diagnostic} {plan : ExecutionPlan}
    (hplan : ExecutionPlan.new workflowName workflowVersion definitionFingerprint
      failurePolicy tasks topologicalOrder groups requiredCapabilities
      requiredIntegrations diagnostics = .ok plan) :
    plan.workflowName = workflowName ∧ plan.workflowVersion = workflowVersion ∧
      plan.definitionFingerprint = definitionFingerprint ∧
      plan.failurePolicy = failurePolicy ∧ plan.tasks = tasks ∧ plan.groups = groups ∧
      plan.requiredCapabilities = sortedSet requiredCapabilities ∧
      plan.requiredIntegrations = sortedSet requiredIntegrations ∧
      plan.diagnostics = diagnostics := by
  unfold ExecutionPlan.new at hplan
  split at hplan
  · cases hplan
  split at hplan
  · cases hplan
  split at hplan
  · cases hplan
  split at hplan
  · cases hplan
  split at hplan
  · cases hplan
  split at hplan
  · cases hplan
  cases hplan
  exact ⟨rfl, rfl, rfl, rfl, rfl, rfl, rfl, rfl, rfl⟩

theorem compiled_of_compile {fingerprint : WorkflowDefinition → Text} {plan : ExecutionPlan}
    (hplan : compile fingerprint workflow = .ok plan) :
    Compiled (fingerprint workflow) workflow plan := by
  unfold compile at hplan
  obtain ⟨-, -, hplan⟩ := bind_eq_ok hplan
  obtain ⟨layers, hlayers, hplan⟩ := bind_eq_ok hplan
  obtain rfl := Except.ok.inj ((topologicalLayers_of_valid workflow).symm.trans hlayers)
  obtain ⟨entries, hentries, hnew⟩ := bind_eq_ok hplan
  obtain ⟨hname, hversion, hfingerprint, hpolicy, rfl, hgroups, hcapabilities, hintegrations,
    hdiagnostics⟩ := fields_of_new hnew
  exact {
    workflowName := hname
    workflowVersion := hversion
    definitionFingerprint := hfingerprint
    failurePolicy := hpolicy
    groups := hgroups
    entries := by
      rw [hgroups]
      exact hentries
    requiredCapabilities := hcapabilities
    requiredIntegrations := hintegrations
    diagnostics := hdiagnostics }

/-- The planner returns a plan exactly for the definitions whose tasks it can plan. -/
theorem exists_compile_iff (fingerprint : WorkflowDefinition → Text) :
    (∃ plan, compile fingerprint workflow = .ok plan) ↔
      ∀ task ∈ workflow.tasks, Plannable task := by
  rw [← exists_planEntries_iff (perm_layers workflow)]
  constructor
  · rintro ⟨plan, hplan⟩
    have hcompiled := compiled_of_compile workflow hplan
    exact ⟨plan.tasks, hcompiled.groups ▸ hcompiled.entries⟩
  · rintro ⟨entries, hentries⟩
    obtain ⟨hkeys, -, hpositions⟩ := keys_of_planEntries hentries
    have hdistinct := DependencyGraph.nodup_flatten_layers (simple_of_valid workflow)
      (closed_of_valid workflow)
    have hnonempty : entries ≠ [] := by
      rintro rfl
      have hlength := (perm_layers workflow).length_eq
      rw [← hkeys, List.length_map, List.length_map] at hlength
      exact workflow.nonempty (List.eq_nil_of_length_eq_zero hlength.symm)
    unfold compile ExecutionPlan.new
    simp only [workflow.valid, topologicalLayers_of_valid, bind, Except.bind, hentries]
    rw [dif_neg hnonempty, dif_neg (not_not.mpr (hkeys ▸ hdistinct)),
      dif_neg (not_not.mpr hpositions), dif_neg (not_not.mpr hkeys.symm),
      dif_neg (not_not.mpr rfl),
      dif_neg (not_not.mpr (groupsAgree_of_planEntries hdistinct hentries))]
    exact ⟨_, rfl⟩

/-- A plan lists the tasks of a definition by depth and then by key. -/
structure Plans (workflow : WorkflowDefinition) (plan : ExecutionPlan) : Prop where
  once : (plan.tasks.map TaskPlanEntry.task).Perm workflow.tasks
  depth : ∀ entry ∈ plan.tasks,
    IsGreatest {length | EndsChain (Depends workflow.tasks) length entry.key} entry.groupIndex
  sorted : plan.tasks.Pairwise fun left right => left.groupIndex < right.groupIndex ∨
    left.groupIndex = right.groupIndex ∧ left.key.value < right.key.value
  dependenciesFirst : DependenciesFirst [] plan.tasks
  positions : plan.tasks.map TaskPlanEntry.position = List.range plan.tasks.length

theorem plans_of_compile {fingerprint : WorkflowDefinition → Text} {plan : ExecutionPlan}
    (hplan : compile fingerprint workflow = .ok plan) : Plans workflow plan := by
  have hcompiled := compiled_of_compile workflow hplan
  have hentries := hcompiled.entries
  rw [hcompiled.groups] at hentries
  obtain ⟨hkeys, hmembers, hpositions⟩ := keys_of_planEntries hentries
  refine ⟨?_, fun entry hentry => ?_, ?_, dependenciesFirst_of_compile hplan, hpositions⟩
  · have htasks : plan.tasks.map TaskPlanEntry.task ⊆ workflow.tasks := by
      intro task htask
      obtain ⟨entry, hentry, rfl⟩ := List.mem_map.mp htask
      exact List.mem_of_find?_eq_some (find?_of_compile hplan entry hentry)
    have hdistinct : (plan.tasks.map TaskPlanEntry.task).Nodup := by
      have hnodup := plan.distinct
      rw [show TaskPlanEntry.key = TaskDefinition.key ∘ TaskPlanEntry.task from rfl,
        ← List.map_map] at hnodup
      exact hnodup.of_map _
    apply (hdistinct.subperm htasks).perm_of_length_le
    have hlength := (perm_layers workflow).length_eq
    rw [← hkeys, List.length_map, List.length_map] at hlength
    rw [List.length_map, hlength]
  · have hplace : (entry.key, entry.groupIndex) ∈
        members (DependencyGraph.ofWorkflow workflow).layers := by
      rw [← hmembers]
      exact List.mem_map_of_mem (f := fun entry : TaskPlanEntry =>
        (entry.key, entry.groupIndex)) hentry
    obtain ⟨group, hgroup, hkey⟩ := mem_members_iff.mp hplace
    have hdepth := (DependencyGraph.peels_layers (simple_of_valid workflow)
      (closed_of_valid workflow)).depth (by
        rw [needs_of_valid]
        exact lists_of_valid workflow) 0
      (fun node _ => iff_of_false (by simp) (not_not.mpr (.start node)))
      entry.groupIndex group hgroup entry.key hkey
    rwa [Nat.zero_add, needs_of_valid] at hdepth
  · have hsorted := pairwise_members fun group hgroup =>
      (DependencyGraph.sorted_layers (simple_of_valid workflow) (closed_of_valid workflow) group
        hgroup).2
    rw [← hmembers, List.pairwise_map] at hsorted
    exact hsorted

end Plans

end PyWorkflowKit.Planning
