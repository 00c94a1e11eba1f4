import PyWorkflowKit.Runtime.Readiness
import PyWorkflowKit.V1.Planning

/-!
# Failure propagation

The dependency graph of any nodes and edges, and which undispatched tasks a terminal failure
skips.
-/

namespace PyWorkflowKit.V1.Failures

open PyWorkflowKit.Core PyWorkflowKit.Domain

/-- `GraphEdge`. -/
structure GraphEdge where
  upstreamTaskId : TaskId
  downstreamTaskId : TaskId
deriving DecidableEq

/-- `DependencyGraph`; an edge may name tasks that the graph does not have. -/
structure DependencyGraph where
  taskIds : List TaskId
  edges : List GraphEdge
  distinct : taskIds.Nodup

namespace DependencyGraph

/-- `DependencyGraph.__init__`. -/
def new (nodes : List TaskId) (edges : List GraphEdge) : Except Error DependencyGraph :=
  let canonicalNodes := sortBy Text.value nodes
  if distinct : canonicalNodes.Nodup then
    .ok {
      taskIds := canonicalNodes
      edges := sortBy (fun edge : GraphEdge =>
        toLex (edge.upstreamTaskId.value, edge.downstreamTaskId.value)) edges
      distinct := distinct }
  else .error (.valueError "DependencyGraph cannot contain duplicate task nodes.")

/-- `build_dependency_graph`. -/
def ofWorkflow (workflow : WorkflowDefinition) : Except Error DependencyGraph :=
  new (workflow.tasks.map TaskDefinition.taskId)
    (workflow.tasks.flatMap fun task =>
      task.dependsOn.map fun dependencyId => ⟨dependencyId, task.taskId⟩)

variable (graph : DependencyGraph)

/-- `_downstream_by_id[task_id]` of a known task. -/
def downstreamById (taskId : TaskId) : List TaskId :=
  sortBy Text.value ((graph.edges.filter fun edge => edge.upstreamTaskId = taskId).map
    GraphEdge.downstreamTaskId)

/-- `downstream_of`. -/
def downstreamOf (taskId : TaskId) : Except Error (List TaskId) :=
  if taskId ∉ graph.taskIds then
    .error (.keyError ("Unknown graph task '" ++ taskId.value ++ "'."))
  else .ok (graph.downstreamById taskId)

/-- The `while pending` loop of `_descendants_of`, with the end of the list first; `none` when
the rounds run out. -/
def descendantsFrom : Nat → List TaskId → List TaskId → Option (Except Error (List TaskId))
  | _, [], discovered => some (.ok discovered)
  | 0, _ :: _, _ => none
  | rounds + 1, candidate :: pending, discovered =>
      if candidate ∈ discovered then descendantsFrom rounds pending discovered
      else
        match graph.downstreamOf candidate with
        | .error error => some (.error error)
        | .ok downstream =>
            descendantsFrom rounds (downstream.reverse ++ pending) (discovered ++ [candidate])

/-- `_descendants_of`. -/
def descendantsOf (taskId : TaskId) (rounds : Nat) : Option (Except Error (List TaskId)) :=
  match graph.downstreamOf taskId with
  | .error error => some (.error error)
  | .ok downstream => graph.descendantsFrom rounds downstream.reverse []

/-- An edge leads from one task to another. -/
def Leads (upstream downstream : TaskId) : Prop := ⟨upstream, downstream⟩ ∈ graph.edges

/-- Every edge names tasks of the graph. -/
def Closed : Prop :=
  ∀ edge ∈ graph.edges, edge.upstreamTaskId ∈ graph.taskIds ∧ edge.downstreamTaskId ∈ graph.taskIds

end DependencyGraph

/-- The loop of `plan_fail_fast`. -/
def skipDecisions (failedTaskId : TaskId) (descendants : List TaskId) (taskRuns : TaskRuns) :
    List TaskId → Except Error (List TaskSkipDecision)
  | [] => .ok []
  | taskId :: rest =>
      if taskId = failedTaskId then skipDecisions failedTaskId descendants taskRuns rest
      else
        match taskRuns.find? taskId with
        | none => .error (.keyError taskId.value)
        | some taskRun =>
            if ¬taskRun.status.undispatched then
              skipDecisions failedTaskId descendants taskRuns rest
            else do
              let decisions ← skipDecisions failedTaskId descendants taskRuns rest
              .ok (⟨taskId, if taskId ∈ descendants then .dependencyFailed
                else .failFastAbort⟩ :: decisions)

/-- `FailurePropagator.plan_fail_fast`. -/
def planFailFast (failedTaskId : TaskId) (graph : DependencyGraph) (taskRuns : TaskRuns)
    (planTaskIds : List TaskId) (rounds : Nat) : Option (Except Error (List TaskSkipDecision)) :=
  (graph.descendantsOf failedTaskId rounds).map fun descendants => do
    skipDecisions failedTaskId (← descendants) taskRuns planTaskIds

/-- The task waits for its dispatch. -/
def Waiting (taskRuns : TaskRuns) (taskId : TaskId) : Prop :=
  ∃ taskRun, taskRuns.find? taskId = some taskRun ∧ taskRun.status.undispatched = true

instance (taskRuns : TaskRuns) (taskId : TaskId) : Decidable (Waiting taskRuns taskId) :=
  match hfound : taskRuns.find? taskId with
  | none => isFalse fun ⟨_, hother, _⟩ => by simp [hfound] at hother
  | some taskRun =>
      decidable_of_iff (taskRun.status.undispatched = true)
        ⟨fun hstatus => ⟨taskRun, hfound, hstatus⟩, fun ⟨_, hother, hstatus⟩ => by
          cases hfound.symm.trans hother
          exact hstatus⟩

section Descendants

variable {graph : DependencyGraph}

theorem mem_downstreamById {taskId other : TaskId} :
    other ∈ graph.downstreamById taskId ↔ graph.Leads taskId other := by
  rw [DependencyGraph.downstreamById, mem_sortBy, List.mem_map]
  constructor
  · rintro ⟨edge, hedge, rfl⟩
    obtain ⟨hmem, hupstream⟩ := List.mem_filter.mp hedge
    rw [decide_eq_true_eq] at hupstream
    subst hupstream
    exact hmem
  · intro hmem
    exact ⟨_, List.mem_filter.mpr ⟨hmem, by simp⟩, rfl⟩

/-- In a closed graph the loop is a search that raises nothing. -/
theorem descendantsFrom_eq (hclosed : graph.Closed) (rounds : Nat)
    {pending discovered : List TaskId} (hpending : pending ⊆ graph.taskIds) :
    graph.descendantsFrom rounds pending discovered =
      (searchWithin (fun taskId => (graph.downstreamById taskId).reverse) rounds pending
        discovered).map .ok := by
  induction rounds generalizing pending discovered with
  | zero => cases pending <;> rfl
  | succ rounds ih =>
      cases pending with
      | nil => rfl
      | cons candidate pending =>
          have hrest : pending ⊆ graph.taskIds := fun _ hmem =>
            hpending (List.mem_cons_of_mem _ hmem)
          have hknown : candidate ∈ graph.taskIds := hpending List.mem_cons_self
          rw [DependencyGraph.descendantsFrom, searchWithin]
          split
          · exact ih hrest
          · rw [DependencyGraph.downstreamOf, if_neg (not_not.mpr hknown)]
            apply ih
            apply List.append_subset.mpr
            constructor
            · intro other hother
              have hleads := mem_downstreamById.mp (List.mem_reverse.mp hother)
              exact (hclosed _ hleads).2
            · exact hrest

/-- The loop ends with the tasks that the start leads to. -/
theorem exists_descendantsOf (hclosed : graph.Closed) {taskId : TaskId}
    (hknown : taskId ∈ graph.taskIds) :
    ∃ found rounds, (∀ more, rounds ≤ more → graph.descendantsOf taskId more = some (.ok found)) ∧
      ∀ other, other ∈ found ↔ Relation.TransGen graph.Leads taskId other := by
  generalize hnext : (fun taskId => (graph.downstreamById taskId).reverse) = next
  have hmem : ∀ node other, other ∈ next node ↔ graph.Leads node other := by
    intro node other
    rw [← hnext, List.mem_reverse, mem_downstreamById]
  have hnodes : ∀ node, next node ⊆ graph.taskIds := by
    intro node other hother
    exact (hclosed _ ((hmem node other).mp hother)).2
  have hsame : (fun node other => other ∈ next node) = graph.Leads := by
    funext node other
    exact propext (hmem node other)
  obtain ⟨found, rounds, hended, hfound⟩ := exists_searchWithin hnodes taskId
  rw [hsame] at hfound
  have hstart : ∀ more, graph.descendantsOf taskId more =
      graph.descendantsFrom more (next taskId) [] := by
    intro more
    rw [DependencyGraph.descendantsOf, DependencyGraph.downstreamOf,
      if_neg (not_not.mpr hknown), ← hnext]
  have hresult : ∀ more, rounds ≤ more → graph.descendantsOf taskId more = some (.ok found) := by
    intro more hmore
    rw [hstart, descendantsFrom_eq hclosed more (hnodes taskId), hnext, hended more hmore]
    rfl
  exact ⟨found, rounds, hresult, hfound⟩

end Descendants

section Decisions

variable {failedTaskId : TaskId} {descendants : List TaskId} {taskRuns : TaskRuns}

/-- One decision for each task of the plan that still waits for its dispatch. -/
theorem skipDecisions_eq_ok {planTaskIds : List TaskId}
    (hruns : ∀ taskId ∈ planTaskIds, taskId ≠ failedTaskId → taskRuns.contains taskId = true) :
    skipDecisions failedTaskId descendants taskRuns planTaskIds =
      .ok ((planTaskIds.filter fun taskId =>
        taskId ≠ failedTaskId ∧ Waiting taskRuns taskId).map fun taskId =>
          ⟨taskId, if taskId ∈ descendants then .dependencyFailed else .failFastAbort⟩) := by
  induction planTaskIds with
  | nil => rfl
  | cons taskId rest ih =>
      have hrest := ih fun other hother => hruns other (List.mem_cons_of_mem _ hother)
      rw [skipDecisions]
      by_cases hfailed : taskId = failedTaskId
      · rw [if_pos hfailed, hrest, List.filter_cons_of_neg (by simp [hfailed])]
      rw [if_neg hfailed]
      have hcontains := hruns taskId List.mem_cons_self hfailed
      cases hfound : taskRuns.find? taskId with
      | none =>
          rw [Table.contains, hfound] at hcontains
          cases hcontains
      | some taskRun =>
          have hwaiting : Waiting taskRuns taskId ↔ taskRun.status.undispatched = true := by
            constructor
            · rintro ⟨other, hother, hstatus⟩
              cases hfound.symm.trans hother
              exact hstatus
            · intro hstatus
              exact ⟨taskRun, hfound, hstatus⟩
          dsimp only
          by_cases hstatus : taskRun.status.undispatched = true
          · rw [if_neg (not_not.mpr hstatus), hrest,
              List.filter_cons_of_pos (by simpa [hfailed] using hwaiting.mpr hstatus)]
            rfl
          · have hskipped : ¬Waiting taskRuns taskId := fun hwaits =>
              hstatus (hwaiting.mp hwaits)
            rw [if_pos hstatus, hrest, List.filter_cons_of_neg (by simp [hskipped])]

end Decisions

/-- Both searches end with the tasks that a path of dependencies leads to, whatever order the
sets are listed in, and a failure decides each waiting task of the plan once. -/
theorem finds_descendants :
    (∀ (entries : List Planning.TaskPlanEntry) (taskKey : Text),
      (∀ entry ∈ entries, ∀ key ∈ entry.dependencies,
        key ∈ entries.map Planning.TaskPlanEntry.key) →
      taskKey ∈ entries.map Planning.TaskPlanEntry.key →
      (∃ found, Runtime.descendantsOf taskKey entries = .ok found ∧
        ∀ other, other ∈ found ↔
          Relation.TransGen (Runtime.DependsOn entries) taskKey other) ∧
      ∀ listed : Text → List Text,
        (∀ key other, other ∈ listed key ↔ other ∈ Runtime.downstreamOf entries key) →
        ∃ found rounds,
          (∀ more, rounds ≤ more → searchWithin listed more (listed taskKey) [] = some found) ∧
          ∀ other, other ∈ found ↔
            Relation.TransGen (Runtime.DependsOn entries) taskKey other) ∧
    ∀ (nodes : List TaskId) (edges : List GraphEdge) (graph : DependencyGraph)
      (taskId : TaskId), DependencyGraph.new nodes edges = .ok graph → graph.Closed →
      taskId ∈ graph.taskIds →
      ∃ found rounds,
        (∀ more, rounds ≤ more → graph.descendantsOf taskId more = some (.ok found)) ∧
        (∀ other, other ∈ found ↔ Relation.TransGen graph.Leads taskId other) ∧
        ∀ (taskRuns : TaskRuns) (planTaskIds : List TaskId),
          (∀ other ∈ planTaskIds, other ≠ taskId → taskRuns.contains other = true) →
          ∃ decisions, (∀ more, rounds ≤ more →
              planFailFast taskId graph taskRuns planTaskIds more = some (.ok decisions)) ∧
            decisions.map TaskSkipDecision.taskId =
              (planTaskIds.filter fun other => other ≠ taskId ∧ Waiting taskRuns other) ∧
            (planTaskIds.Nodup → (decisions.map TaskSkipDecision.taskId).Nodup) ∧
            ∀ decision ∈ decisions,
              (decision.reason = .dependencyFailed ↔
                Relation.TransGen graph.Leads taskId decision.taskId) ∧
              (decision.reason = .failFastAbort ↔
                ¬Relation.TransGen graph.Leads taskId decision.taskId) := by
  constructor
  · intro entries taskKey hknown htask
    constructor
    · obtain ⟨found, hfound⟩ := Runtime.descendantsOf_eq_ok hknown htask
      exact ⟨found, hfound, Runtime.mem_descendantsOf hfound⟩
    · intro listed hlisted
      have hnodes : ∀ node, listed node ⊆ entries.map Planning.TaskPlanEntry.key := by
        intro node key hkey
        obtain ⟨entry, hentry, rfl, -⟩ := Runtime.mem_downstreamOf.mp ((hlisted _ _).mp hkey)
        exact List.mem_map_of_mem hentry
      have hsame : (fun node key => key ∈ listed node) = Runtime.DependsOn entries := by
        funext node key
        exact propext ((hlisted node key).trans Runtime.mem_downstreamOf)
      rw [← hsame]
      exact exists_searchWithin hnodes taskKey
  · intro nodes edges graph taskId _ hclosed hknown
    obtain ⟨found, rounds, hended, hfound⟩ := exists_descendantsOf hclosed hknown
    refine ⟨found, rounds, hended, hfound, fun taskRuns planTaskIds hruns => ?_⟩
    have hdecided : skipDecisions taskId found taskRuns planTaskIds = .ok _ :=
      skipDecisions_eq_ok hruns
    have hresult : ∀ more, rounds ≤ more →
        planFailFast taskId graph taskRuns planTaskIds more =
          some (skipDecisions taskId found taskRuns planTaskIds) := by
      intro more hmore
      rw [planFailFast, hended more hmore]
      rfl
    have hids := List.map_map (g := TaskSkipDecision.taskId)
      (f := fun other => (⟨other, if other ∈ found then .dependencyFailed else .failFastAbort⟩ :
        TaskSkipDecision)) (l := planTaskIds.filter fun other =>
          other ≠ taskId ∧ Waiting taskRuns other)
    have hsame : TaskSkipDecision.taskId ∘ (fun other => (⟨other,
        if other ∈ found then .dependencyFailed else .failFastAbort⟩ : TaskSkipDecision)) = id :=
      rfl
    rw [hsame, List.map_id] at hids
    refine ⟨_, fun more hmore => (hresult more hmore).trans (congrArg some hdecided), hids,
      fun hdistinct => by rw [hids]; exact hdistinct.filter _, fun decision hdecision => ?_⟩
    obtain ⟨other, -, rfl⟩ := List.mem_map.mp hdecision
    rw [← hfound other]
    by_cases hmem : other ∈ found <;> simp [hmem]

/-- Two tasks, of which one depends on the other. -/
def pair : DependencyGraph where
  taskIds := [.lit "extract", .lit "load"]
  edges := [⟨.lit "extract", .lit "load"⟩]
  distinct := by decide

theorem finds_descendants_pair :
    ∃ found rounds,
      (∀ more, rounds ≤ more →
        pair.descendantsOf ⟨"extract", by decide⟩ more = some (.ok found)) ∧
      ∀ other, other ∈ found ↔
        Relation.TransGen pair.Leads ⟨"extract", by decide⟩ other := by
  have hclosed : pair.Closed := by
    intro edge hedge
    rw [List.mem_singleton.mp hedge]
    decide
  obtain ⟨found, rounds, hended, hfound, -⟩ := finds_descendants.2
    [⟨"load", by decide⟩, ⟨"extract", by decide⟩] [⟨⟨"extract", by decide⟩, ⟨"load", by decide⟩⟩]
    pair ⟨"extract", by decide⟩ rfl hclosed (by decide)
  exact ⟨found, rounds, hended, hfound⟩

section Workflows

variable {workflow : WorkflowDefinition} {graph : DependencyGraph}

theorem leads_iff (hgraph : DependencyGraph.ofWorkflow workflow = .ok graph)
    (upstream downstream : TaskId) :
    graph.Leads upstream downstream ↔
      downstream ∈ (buildDependencyGraph workflow).downstream upstream := by
  rw [DependencyGraph.ofWorkflow, DependencyGraph.new] at hgraph
  split at hgraph
  swap
  · cases hgraph
  cases hgraph
  rw [DependencyGraph.Leads, mem_sortBy, List.mem_flatMap, Planning.DependencyGraph.downstream,
    List.mem_filter, decide_eq_true_eq]
  constructor
  · rintro ⟨task, htask, hmem⟩
    obtain ⟨dependencyId, hdependency, heq⟩ := List.mem_map.mp hmem
    cases heq
    have hkey : task.taskId ∈ (buildDependencyGraph workflow).taskKeys :=
      (mem_sortBy _ _ _).mpr (List.mem_map_of_mem htask)
    have hfound := task?_of_mem htask
    simp only [buildDependencyGraph, hfound, mem_sortBy]
    exact ⟨List.mem_map_of_mem htask, hdependency⟩
  · rintro ⟨hkey, hdependency⟩
    obtain ⟨task, htask, rfl⟩ := List.mem_map.mp ((mem_sortBy _ _ _).mp hkey)
    simp only [buildDependencyGraph, task?_of_mem htask, mem_sortBy] at hdependency
    exact ⟨task, htask, List.mem_map.mpr ⟨upstream, hdependency, rfl⟩⟩

theorem taskIds_ofWorkflow (hgraph : DependencyGraph.ofWorkflow workflow = .ok graph) :
    graph.taskIds = (buildDependencyGraph workflow).taskKeys := by
  rw [DependencyGraph.ofWorkflow, DependencyGraph.new] at hgraph
  split at hgraph
  · cases hgraph
    rfl
  · cases hgraph

/-- For the graph of a workflow the runner's model makes the same decisions. -/
theorem planFailFast_ofWorkflow (hgraph : DependencyGraph.ofWorkflow workflow = .ok graph)
    (hclosed : graph.Closed) {failedTaskId : TaskId} (hfailed : failedTaskId ∈ graph.taskIds)
    {taskRuns : TaskRuns} {planTaskIds : List TaskId}
    (hruns : ∀ taskId ∈ planTaskIds, taskId ≠ failedTaskId → taskRuns.contains taskId = true) :
    ∃ rounds, ∀ more, rounds ≤ more →
      planFailFast failedTaskId graph taskRuns planTaskIds more =
        some (.ok (V1.planFailFast failedTaskId (buildDependencyGraph workflow) taskRuns
          planTaskIds)) := by
  obtain ⟨found, rounds, hended, hfound⟩ := exists_descendantsOf hclosed hfailed
  have hnodes : ∀ node, (buildDependencyGraph workflow).downstream node ⊆
      (buildDependencyGraph workflow).taskKeys := fun node => List.filter_subset_self _
  have hsame : graph.Leads =
      fun node other => other ∈ (buildDependencyGraph workflow).downstream node := by
    funext node other
    exact propext (leads_iff hgraph node other)
  have hdescendants : ∀ taskId, taskId ∈ found ↔
      taskId ∈ V1.descendantsOf (buildDependencyGraph workflow) failedTaskId := by
    intro taskId
    rw [hfound, V1.descendantsOf, mem_search_iff hnodes (Nat.lt_succ_self _), hsame]
  have hdecided : skipDecisions failedTaskId found taskRuns planTaskIds =
      .ok (V1.planFailFast failedTaskId (buildDependencyGraph workflow) taskRuns
        planTaskIds) := by
    clear hended
    induction planTaskIds with
    | nil => rfl
    | cons taskId rest ih =>
        have hrest := ih fun other hother => hruns other (List.mem_cons_of_mem _ hother)
        rw [V1.planFailFast] at hrest ⊢
        rw [skipDecisions, List.filterMap_cons]
        by_cases hself : taskId = failedTaskId
        · rw [if_pos hself, if_pos hself, hrest]
        rw [if_neg hself, if_neg hself]
        have hcontains := hruns taskId List.mem_cons_self hself
        cases hrun : taskRuns.find? taskId with
        | none =>
            rw [Table.contains, hrun] at hcontains
            cases hcontains
        | some taskRun =>
            dsimp only
            by_cases hstatus : taskRun.status.undispatched = true
            · rw [if_neg (not_not.mpr hstatus), if_pos hstatus, hrest]
              simp only [hdescendants]
              rfl
            · rw [if_pos hstatus, if_neg hstatus, hrest]
  refine ⟨rounds, fun more hmore => ?_⟩
  rw [planFailFast, hended more hmore, ← hdecided]
  rfl

end Workflows

end PyWorkflowKit.V1.Failures
