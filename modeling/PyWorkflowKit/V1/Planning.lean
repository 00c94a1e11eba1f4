import PyWorkflowKit.Core.Search
import PyWorkflowKit.Planning.Graph
import PyWorkflowKit.V1.Definitions

/-!
# Planning of version 1

The dependency graph of a workflow, its validation, the order in which a plan lists the
tasks, which tasks are ready and which ones a failure skips.
-/

namespace PyWorkflowKit.V1

open PyWorkflowKit.Core PyWorkflowKit.Domain
open PyWorkflowKit.Planning (DependencyGraph)

/-- `build_dependency_graph`. -/
def buildDependencyGraph (workflow : WorkflowDefinition) : DependencyGraph where
  taskKeys := sortBy Text.value (workflow.tasks.map TaskDefinition.taskId)
  dependencies taskId :=
    match workflow.task? taskId with
    | some task => sortBy Text.value task.dependsOn
    | none => []

/-- `_validate_unknown_dependencies`, on the edges in the order of their endpoints. -/
def validateUnknownDependencies (graph : DependencyGraph) : Except Error Unit :=
  let edges := graph.taskKeys.flatMap fun taskId =>
    (graph.dependencies taskId).map fun dependencyId => (dependencyId, taskId)
  let unknown := edges.filter fun edge => edge.1 ∉ graph.taskKeys
  match sortBy (fun edge : TaskId × TaskId => toLex (edge.1.value, edge.2.value)) unknown with
  | [] => .ok ()
  | (dependencyId, taskId) :: _ => .error (.unknownDependency taskId.value dependencyId.value)

/-- The `while ready` loop of `_validate_acyclic`: how many tasks it takes from its heap,
and the counts it leaves. -/
def drainReady (graph : DependencyGraph) :
    Nat → DependencyGraph.Degrees → Nat × (TaskId → ℤ)
  | 0, degrees => (0, degrees.inDegree)
  | rounds + 1, degrees =>
      match sortBy Text.value degrees.nextReady with
      | [] => (0, degrees.inDegree)
      | taskId :: rest =>
          let drained := drainReady graph rounds
            (DependencyGraph.Degrees.visit graph ⟨degrees.inDegree, rest⟩ taskId)
          (drained.1 + 1, drained.2)

/-- The counts of unfinished dependencies before any task is finished. -/
def inDegree (graph : DependencyGraph) (taskId : TaskId) : ℤ :=
  (graph.dependencies taskId).length

/-- The tasks whose count of unfinished dependencies has not dropped to zero. -/
def remainingTasks (graph : DependencyGraph) (counts : TaskId → ℤ) : List String :=
  (sortBy Text.value (graph.taskKeys.filter fun taskId => 0 < counts taskId)).map Text.value

/-- `_validate_acyclic`. -/
def validateAcyclic (graph : DependencyGraph) : Except Error Unit :=
  let ready := graph.taskKeys.filter fun taskId => inDegree graph taskId = 0
  let (processed, counts) := drainReady graph (graph.taskKeys.length + 1) ⟨inDegree graph, ready⟩
  if processed ≠ graph.taskKeys.length then
    .error (.cycleDetected (remainingTasks graph counts))
  else .ok ()

/-- `DAGValidator.validate`; a task definition has no duplicate dependency and does not
depend on itself. -/
def validate (graph : DependencyGraph) : Except Error Unit := do
  validateUnknownDependencies graph
  validateAcyclic graph

/-- `ExecutionPlanner.build_plan`: the task ids of the plan.  Of the checks of the
`ExecutionPlan` constructor all but the last hold of any list of layers. -/
def buildPlan (graph : DependencyGraph) : Except Error (List TaskId) :=
  let ready := graph.taskKeys.filter fun taskId => inDegree graph taskId = 0
  let (groups, counts) :=
    graph.layersFrom (graph.taskKeys.length + 1) (inDegree graph) ready
  if groups.flatten.length ≠ graph.taskKeys.length then
    .error (.planningInvariant ("graph could not be fully planned; remaining tasks: " ++
      ", ".intercalate (remainingTasks graph counts)))
  else if ¬ groups.flatten.Nodup then
    .error (.planningInvariant "each task must appear exactly once in the execution plan")
  else .ok groups.flatten

/-- The graph and the plan that a runner starts from. -/
def plan (workflow : WorkflowDefinition) : Except Error (List TaskId) := do
  let graph := buildDependencyGraph workflow
  validate graph
  buildPlan graph

/-- A dictionary of task runs by task. -/
abbrev TaskRuns := Table TaskRun.taskId

/-- The readiness check of one task run against its upstream tasks. -/
def upstreamSucceeded (taskRuns : TaskRuns) : List TaskId → Except Error Bool
  | [] => .ok true
  | upstreamTaskId :: rest =>
      match taskRuns.find? upstreamTaskId with
      | none =>
          .error (.planningInvariant
            ("missing TaskRun for upstream task '" ++ upstreamTaskId.value ++ "'"))
      | some upstreamRun =>
          if upstreamRun.status = .succeeded then upstreamSucceeded taskRuns rest
          else .ok false

/-- `ReadyTaskResolver.is_ready`. -/
def isReady (taskRun : TaskRun) (graph : DependencyGraph) (taskRuns : TaskRuns) :
    Except Error Bool :=
  if taskRun.taskId ∉ graph.taskKeys then
    .error (.planningInvariant
      ("TaskRun references task '" ++ taskRun.taskId.value ++ "' absent from graph"))
  else if taskRun.status ≠ .pending then .ok false
  else upstreamSucceeded taskRuns (graph.dependencies taskRun.taskId)

/-- `ReadyTaskResolver.find_ready`, from some task of the graph on. -/
def findReadyFrom (graph : DependencyGraph) (taskRuns : TaskRuns) :
    List TaskId → Except Error (List TaskRun)
  | [] => .ok []
  | taskId :: rest =>
      match taskRuns.find? taskId with
      | none =>
          .error (.planningInvariant
            ("missing TaskRun for graph task '" ++ taskId.value ++ "'"))
      | some taskRun => do
          let ready ← isReady taskRun graph taskRuns
          let others ← findReadyFrom graph taskRuns rest
          .ok (if ready then taskRun :: others else others)

/-- `ReadyTaskResolver.find_ready`. -/
def findReady (graph : DependencyGraph) (taskRuns : TaskRuns) : Except Error (List TaskRun) :=
  findReadyFrom graph taskRuns graph.taskKeys

/-- `_descendants_of`; the search takes every pushed candidate once. -/
def descendantsOf (graph : DependencyGraph) (taskId : TaskId) : List TaskId :=
  search graph.downstream
    (searchCost graph.downstream graph.taskKeys (graph.downstream taskId) [] + 1)
    (graph.downstream taskId) []

/-- Why one undispatched task is skipped after a failure. -/
structure TaskSkipDecision where
  taskId : TaskId
  reason : SkipReason
deriving DecidableEq

/-- The task run waits for its dispatch. -/
def TaskRunStatus.undispatched : TaskRunStatus → Bool
  | pending | ready => true
  | _ => false

/-- `FailurePropagator.plan_fail_fast`; every task of the plan has a task run. -/
def planFailFast (failedTaskId : TaskId) (graph : DependencyGraph) (taskRuns : TaskRuns)
    (planTaskIds : List TaskId) : List TaskSkipDecision :=
  planTaskIds.filterMap fun taskId =>
    if taskId = failedTaskId then none
    else
      match taskRuns.find? taskId with
      | none => none
      | some taskRun =>
          if taskRun.status.undispatched then
            some ⟨taskId,
              if taskId ∈ descendantsOf graph failedTaskId then .dependencyFailed
              else .failFastAbort⟩
          else none

section Plans

variable {workflow : WorkflowDefinition}

theorem task?_eq_some {taskId : TaskId} {task : TaskDefinition}
    (hfound : workflow.task? taskId = some task) :
    task ∈ workflow.tasks ∧ task.taskId = taskId := by
  unfold WorkflowDefinition.task? at hfound
  exact ⟨List.mem_of_find?_eq_some hfound, by simpa using List.find?_some hfound⟩

theorem task?_of_mem {task : TaskDefinition} (hmem : task ∈ workflow.tasks) :
    workflow.task? task.taskId = some task :=
  Table.find?_of_mem ⟨workflow.tasks, workflow.distinct⟩ hmem

theorem simple_buildDependencyGraph (workflow : WorkflowDefinition) :
    (buildDependencyGraph workflow).Simple where
  keys := nodup_sortBy _ workflow.distinct
  dependencies taskId := by
    unfold buildDependencyGraph
    simp only
    split
    · next task _ => exact nodup_sortBy _ task.distinct
    · exact List.nodup_nil

theorem dependencies_of_unknown {taskId : TaskId}
    (hunknown : taskId ∉ (buildDependencyGraph workflow).taskKeys) :
    (buildDependencyGraph workflow).dependencies taskId = [] := by
  unfold buildDependencyGraph
  simp only
  split
  · next task hfound =>
    obtain ⟨hmem, rfl⟩ := task?_eq_some hfound
    apply absurd _ hunknown
    unfold buildDependencyGraph
    rw [mem_sortBy]
    exact List.mem_map_of_mem hmem
  · rfl

/-- A plan lists every task of the workflow once, after its dependencies. -/
structure Ordered (graph : DependencyGraph) (planTaskIds : List TaskId) : Prop where
  distinct : planTaskIds.Nodup
  mem_iff : ∀ taskId, taskId ∈ planTaskIds ↔ taskId ∈ graph.taskKeys
  respects : graph.Respects [] planTaskIds

/-- Finishing edges makes only downstream tasks ready. -/
theorem mem_nextReady_visit {graph : DependencyGraph} {degrees : DependencyGraph.Degrees}
    {taskId other : TaskId} (hmem : other ∈ (degrees.visit graph taskId).nextReady) :
    other ∈ degrees.nextReady ∨ other ∈ graph.taskKeys := by
  have hfold : ∀ (downstream : List TaskId) (degrees : DependencyGraph.Degrees),
      downstream ⊆ graph.taskKeys →
        other ∈ (downstream.foldl DependencyGraph.Degrees.finishEdge degrees).nextReady →
          other ∈ degrees.nextReady ∨ other ∈ graph.taskKeys := by
    intro downstream
    induction downstream with
    | nil => exact fun degrees _ hready => Or.inl hready
    | cons first rest ih =>
        intro degrees hsubset hready
        rcases ih _ (fun _ hrest => hsubset (List.mem_cons_of_mem _ hrest)) hready with
          hnext | hkey
        · unfold DependencyGraph.Degrees.finishEdge at hnext
          simp only at hnext
          split at hnext
          · rcases List.mem_append.mp hnext with hold | hfirst
            · exact Or.inl hold
            · rw [List.mem_singleton.mp hfirst]
              exact Or.inr (hsubset List.mem_cons_self)
          · exact Or.inl hnext
        · exact Or.inr hkey
  exact hfold _ degrees (List.filter_subset_self _) hmem

/-- The layers hold tasks of the graph only. -/
theorem mem_taskKeys_of_layersFrom {graph : DependencyGraph} {taskId : TaskId} (rounds : Nat) :
    ∀ {counts : TaskId → ℤ} {ready : List TaskId}, ready ⊆ graph.taskKeys →
      taskId ∈ (graph.layersFrom rounds counts ready).1.flatten → taskId ∈ graph.taskKeys := by
  induction rounds with
  | zero =>
      intro counts ready _ hmem
      simp [DependencyGraph.layersFrom] at hmem
  | succ rounds ih =>
      intro counts ready hready hmem
      unfold DependencyGraph.layersFrom at hmem
      split at hmem
      · simp at hmem
      · rw [List.flatten_cons, List.mem_append] at hmem
        rcases hmem with hlayer | hrest
        · rw [mem_sortBy] at hlayer
          exact hready hlayer
        · refine ih (fun other hother => ?_) hrest
          have hfold : ∀ (layer : List TaskId) (degrees : DependencyGraph.Degrees),
              degrees.nextReady ⊆ graph.taskKeys →
                (layer.foldl (DependencyGraph.Degrees.visit graph) degrees).nextReady ⊆
                  graph.taskKeys := by
            intro layer
            induction layer with
            | nil => exact fun _ hsubset => hsubset
            | cons first rest ihlayer =>
                intro degrees hsubset
                apply ihlayer
                intro next hnext
                rcases mem_nextReady_visit hnext with hold | hkey
                · exact hsubset hold
                · exact hkey
          rw [mem_sortBy] at hother
          exact hfold (sortBy Text.value ready) ⟨counts, []⟩ (List.nil_subset _) hother

theorem ordered_of_buildPlan {planTaskIds : List TaskId}
    (hplan : buildPlan (buildDependencyGraph workflow) = .ok planTaskIds) :
    Ordered (buildDependencyGraph workflow) planTaskIds := by
  generalize hgraph : buildDependencyGraph workflow = graph at hplan
  have hsimple : graph.Simple := hgraph ▸ simple_buildDependencyGraph workflow
  have hclosed : ∀ taskId, taskId ∉ graph.taskKeys → graph.dependencies taskId = [] := by
    intro taskId hunknown
    subst hgraph
    exact dependencies_of_unknown hunknown
  unfold buildPlan at hplan
  simp only at hplan
  split at hplan
  · cases hplan
  next hlength =>
  split at hplan
  · cases hplan
  next hnodup =>
  cases hplan
  have hsubset : ∀ taskId ∈ (graph.layersFrom (graph.taskKeys.length + 1) (inDegree graph)
      (graph.taskKeys.filter fun taskId => inDegree graph taskId = 0)).1.flatten,
      taskId ∈ graph.taskKeys := fun taskId =>
    mem_taskKeys_of_layersFrom _ (List.filter_subset_self _)
  refine ⟨not_not.mp hnodup, fun taskId => ⟨hsubset taskId, fun hkey => ?_⟩, ?_⟩
  · have hperm := (List.subperm_of_subset (not_not.mp hnodup) hsubset).perm_of_length_le
      (not_not.mp hlength).ge
    exact hperm.mem_iff.mpr hkey
  · apply DependencyGraph.respects_layersFrom hsimple hclosed
    have hpending : ∀ taskId, graph.pending [] taskId = graph.dependencies taskId := by
      intro taskId
      simp [DependencyGraph.pending]
    refine ⟨fun taskId => by rw [hpending]; rfl, fun taskId hmem => ?_, ?_⟩
    · have hzero : taskId ∈ graph.taskKeys ∧ graph.dependencies taskId = [] := by
        simpa [inDegree] using hmem
      rw [hpending, hzero.2]
    · simpa using hsimple.keys.filter _

end Plans

end PyWorkflowKit.V1
