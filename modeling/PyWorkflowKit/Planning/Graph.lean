import PyWorkflowKit.Authoring.Definitions

/-!
# Topological layers

The deterministic layering of the planner: a task enters a layer when its count
of unfinished dependencies drops to zero.
-/

namespace PyWorkflowKit.Planning

open PyWorkflowKit.Core PyWorkflowKit.Domain PyWorkflowKit.Authoring

/-- `_DependencyGraph`: sorted task keys with their dependencies. -/
structure DependencyGraph where
  taskKeys : List Text
  dependencies : Text → List Text

namespace DependencyGraph

/-- `_DependencyGraph.__init__`. -/
def ofWorkflow (workflow : WorkflowDefinition) : DependencyGraph where
  taskKeys := sortBy Text.value (workflow.tasks.map TaskDefinition.key)
  dependencies taskKey :=
    match workflow.tasks.find? fun task => task.key = taskKey with
    | some task => sortBy Text.value task.dependencies
    | none => []

/-- `downstream_of`. -/
def downstream (graph : DependencyGraph) (taskKey : Text) : List Text :=
  graph.taskKeys.filter fun other => taskKey ∈ graph.dependencies other

/-- The number of edges. -/
def edgeCount (graph : DependencyGraph) : Nat :=
  (graph.taskKeys.map fun taskKey => (graph.dependencies taskKey).length).sum

/-- The counts that the layering updates and the tasks it has made ready. -/
structure Degrees where
  inDegree : Text → ℤ
  nextReady : List Text

/-- One edge into `downstream` is finished. -/
def Degrees.finishEdge (degrees : Degrees) (downstream : Text) : Degrees :=
  let remaining := degrees.inDegree downstream - 1
  { inDegree := Function.update degrees.inDegree downstream remaining
    nextReady :=
      if remaining = 0 then degrees.nextReady ++ [downstream] else degrees.nextReady }

/-- Every edge out of `taskKey` is finished. -/
def Degrees.visit (graph : DependencyGraph) (degrees : Degrees) (taskKey : Text) :
    Degrees :=
  (graph.downstream taskKey).foldl finishEdge degrees

/-- The layers produced by the `while ready` loop, and the counts it leaves. -/
def layersFrom (graph : DependencyGraph) :
    Nat → (Text → ℤ) → List Text → List (List Text) × (Text → ℤ)
  | 0, inDegree, _ => ([], inDegree)
  | rounds + 1, inDegree, ready =>
      if ready = [] then ([], inDegree)
      else
        let layer := sortBy Text.value ready
        let visited := layer.foldl (Degrees.visit graph) ⟨inDegree, []⟩
        let rest := layersFrom graph rounds visited.inDegree
          (sortBy Text.value visited.nextReady)
        (layer :: rest.1, rest.2)

/-- `topological_layers`; a round visits at least one task. -/
def topologicalLayers (graph : DependencyGraph) :
    Except PyError (List (List Text)) :=
  let inDegree := fun taskKey => ((graph.dependencies taskKey).length : ℤ)
  let ready := sortBy Text.value
    (graph.taskKeys.filter fun taskKey => inDegree taskKey = 0)
  let (layers, remaining) :=
    layersFrom graph (graph.taskKeys.length + 1) inDegree ready
  if layers.flatten.length ≠ graph.taskKeys.length then
    .error (.valueError
      ("workflow dependency topology contains a cycle involving: " ++
        ", ".intercalate ((sortBy Text.value
          (graph.taskKeys.filter fun taskKey => 0 < remaining taskKey)).map
            Text.value)))
  else .ok layers

/-- The dependencies of a task that are not among the finished ones. -/
def pending (graph : DependencyGraph) (finished : List Text) (taskKey : Text) :
    List Text :=
  (graph.dependencies taskKey).filter fun dependency => dependency ∉ finished

/-- Task keys and dependencies are listed without repetition. -/
structure Simple (graph : DependencyGraph) : Prop where
  keys : graph.taskKeys.Nodup
  dependencies : ∀ taskKey, (graph.dependencies taskKey).Nodup

theorem simple_ofWorkflow (workflow : WorkflowDefinition) :
    (ofWorkflow workflow).Simple where
  keys := nodup_sortBy _ workflow.distinct
  dependencies taskKey := by
    unfold ofWorkflow
    simp only
    split
    · next task _ => exact nodup_sortBy _ task.distinct
    · exact List.nodup_nil

variable {graph : DependencyGraph}

theorem pending_append_of_not_mem {finished : List Text} {taskKey other : Text}
    (hother : taskKey ∉ graph.dependencies other) :
    graph.pending (finished ++ [taskKey]) other = graph.pending finished other := by
  apply List.filter_congr
  intro dependency hdependency
  have hne : dependency ≠ taskKey := fun heq => hother (heq ▸ hdependency)
  simp [hne]

/-- Finishing a task removes it from what its dependents wait for. -/
theorem length_pending_append (hsimple : graph.Simple) {finished : List Text}
    {taskKey other : Text} (hother : taskKey ∈ graph.dependencies other)
    (hfresh : taskKey ∉ finished) :
    (graph.pending finished other).length =
      (graph.pending (finished ++ [taskKey]) other).length + 1 := by
  have hsplit : graph.pending (finished ++ [taskKey]) other =
      (graph.pending finished other).erase taskKey := by
    have hnodup : (graph.pending finished other).Nodup :=
      (hsimple.dependencies other).filter _
    rw [hnodup.erase_eq_filter, pending, pending, List.filter_filter]
    apply List.filter_congr
    intro dependency _
    by_cases heq : dependency = taskKey <;> simp [heq]
  have hmem : taskKey ∈ graph.pending finished other := by
    simp [pending, hother, hfresh]
  rw [hsplit, List.length_erase_of_mem hmem]
  have hpositive := List.length_pos_of_mem hmem
  omega

/-- The invariant of the layering: `finished` tasks have been visited, those in
`layer` are about to be, and the counts are those of the other dependencies. -/
structure Layering (graph : DependencyGraph) (finished layer : List Text)
    (degrees : Degrees) : Prop where
  inDegree : ∀ taskKey, degrees.inDegree taskKey = (graph.pending finished taskKey).length
  waits : ∀ taskKey ∈ finished ++ layer ++ degrees.nextReady,
    graph.pending finished taskKey = []
  distinct : (finished ++ layer ++ degrees.nextReady).Nodup

/-- Every dependency of a task stands before it. -/
def Respects (graph : DependencyGraph) (before : List Text) : List Text → Prop
  | [] => True
  | taskKey :: rest =>
      (∀ dependency ∈ graph.dependencies taskKey, dependency ∈ before) ∧
        Respects graph (before ++ [taskKey]) rest

/-- Finishing the edges out of a task one by one. -/
theorem foldl_finishEdge (downstream : List Text) (hnodup : downstream.Nodup)
    (degrees : Degrees) :
    (∀ taskKey, (downstream.foldl Degrees.finishEdge degrees).inDegree taskKey =
      if taskKey ∈ downstream then degrees.inDegree taskKey - 1
      else degrees.inDegree taskKey) ∧
    (downstream.foldl Degrees.finishEdge degrees).nextReady =
      degrees.nextReady ++ downstream.filter fun taskKey =>
        degrees.inDegree taskKey - 1 = 0 := by
  induction downstream generalizing degrees with
  | nil => simp
  | cons first rest ih =>
      have hfirst := (List.nodup_cons.mp hnodup).1
      have hih := ih (List.nodup_cons.mp hnodup).2 (degrees.finishEdge first)
      have hother : ∀ taskKey, taskKey ≠ first →
          (degrees.finishEdge first).inDegree taskKey = degrees.inDegree taskKey := by
        intro taskKey hne
        simp [Degrees.finishEdge, hne]
      refine ⟨fun taskKey => ?_, ?_⟩
      · rw [List.foldl_cons, hih.1 taskKey]
        by_cases heq : taskKey = first
        · subst heq
          simp [hfirst, Degrees.finishEdge]
        · simp [hother taskKey heq, heq]
      · rw [List.foldl_cons, hih.2]
        have hrest : (rest.filter fun taskKey =>
              (degrees.finishEdge first).inDegree taskKey - 1 = 0) =
            rest.filter fun taskKey => degrees.inDegree taskKey - 1 = 0 := by
          apply List.filter_congr
          intro taskKey htaskKey
          rw [hother taskKey fun heq => hfirst (heq ▸ htaskKey)]
        rw [hrest]
        unfold Degrees.finishEdge
        simp only
        split
        · next hzero => simp [hzero]
        · next hzero => simp [hzero]

/-- A dependency that is no longer pending is finished. -/
theorem mem_of_pending_eq_nil {finished : List Text} {taskKey dependency : Text}
    (hpending : graph.pending finished taskKey = [])
    (hdependency : dependency ∈ graph.dependencies taskKey) : dependency ∈ finished := by
  have := List.filter_eq_nil_iff.mp hpending dependency hdependency
  simpa using this

theorem pending_eq_nil_mono {finished finished' : List Text} {taskKey : Text}
    (hsubset : finished ⊆ finished') (hpending : graph.pending finished taskKey = []) :
    graph.pending finished' taskKey = [] := by
  apply List.filter_eq_nil_iff.mpr
  intro dependency hdependency
  have := hsubset (mem_of_pending_eq_nil hpending hdependency)
  simp [this]

/-- Visiting the next task of the layer keeps the invariant. -/
theorem Layering.visit (hsimple : graph.Simple)
    (hclosed : ∀ key, key ∉ graph.taskKeys → graph.dependencies key = [])
    {finished layer : List Text} {taskKey : Text} {degrees : Degrees}
    (hlayering : graph.Layering finished (taskKey :: layer) degrees) :
    graph.Layering (finished ++ [taskKey]) layer (degrees.visit graph taskKey) := by
  have hfresh : taskKey ∉ finished := by
    have hdistinct := hlayering.distinct
    rw [List.append_assoc] at hdistinct
    exact fun hmem => List.disjoint_of_nodup_append hdistinct hmem (by simp)
  have hnodup : (graph.downstream taskKey).Nodup := hsimple.keys.filter _
  obtain ⟨hdegree, hready⟩ := foldl_finishEdge (graph.downstream taskKey) hnodup degrees
  have hmem : ∀ other, other ∈ graph.downstream taskKey ↔
      taskKey ∈ graph.dependencies other := by
    intro other
    by_cases hother : other ∈ graph.taskKeys
    · simp [downstream, hother]
    · simp [downstream, hother, hclosed other hother]
  have hcount : ∀ other, (degrees.visit graph taskKey).inDegree other =
      (graph.pending (finished ++ [taskKey]) other).length := by
    intro other
    rw [Degrees.visit, hdegree other, hlayering.inDegree other]
    by_cases hother : taskKey ∈ graph.dependencies other
    · rw [if_pos ((hmem other).mpr hother), length_pending_append hsimple hother hfresh]
      omega
    · rw [if_neg fun hdown => hother ((hmem other).mp hdown),
        pending_append_of_not_mem hother]
  have hsubset : finished ⊆ finished ++ [taskKey] := List.subset_append_left _ _
  -- a task made ready by this visit was still waiting for `taskKey`
  have hnew : ∀ other ∈ (graph.downstream taskKey).filter (fun key =>
      degrees.inDegree key - 1 = 0),
      graph.pending finished other ≠ [] ∧
        graph.pending (finished ++ [taskKey]) other = [] := by
    intro other hother
    obtain ⟨hdown, hzero⟩ := List.mem_filter.mp hother
    have hlength := length_pending_append hsimple ((hmem other).mp hdown) hfresh
    have hdegrees := hlayering.inDegree other
    have hone : degrees.inDegree other - 1 = 0 := by simpa using hzero
    constructor
    · intro hnil
      rw [hnil] at hlength
      simp at hlength
    · exact List.eq_nil_of_length_eq_zero (by omega)
  have hnext : (degrees.visit graph taskKey).nextReady = degrees.nextReady ++
      (graph.downstream taskKey).filter fun key => degrees.inDegree key - 1 = 0 := hready
  refine ⟨hcount, fun other hother => ?_, ?_⟩
  · rw [hnext, ← List.append_assoc, List.mem_append] at hother
    rcases hother with hold | hadded
    · exact pending_eq_nil_mono hsubset (hlayering.waits other (by simpa using hold))
    · exact (hnew other hadded).2
  · rw [hnext, ← List.append_assoc]
    refine List.Nodup.append (by simpa using hlayering.distinct) (hnodup.filter _) ?_
    intro other hold hadded
    exact (hnew other hadded).1 (hlayering.waits other (by simpa using hold))

/-- Visiting a whole layer keeps the invariant. -/
theorem Layering.visitAll (hsimple : graph.Simple)
    (hclosed : ∀ key, key ∉ graph.taskKeys → graph.dependencies key = [])
    {finished layer : List Text} {degrees : Degrees}
    (hlayering : graph.Layering finished layer degrees) :
    graph.Layering (finished ++ layer) [] (layer.foldl (Degrees.visit graph) degrees) := by
  induction layer generalizing finished degrees with
  | nil => simpa using hlayering
  | cons taskKey rest ih =>
      have hrest := ih (hlayering.visit hsimple hclosed)
      simpa using hrest

theorem respects_append {before first second : List Text} :
    graph.Respects before (first ++ second) ↔
      graph.Respects before first ∧ graph.Respects (before ++ first) second := by
  induction first generalizing before with
  | nil => simp [Respects]
  | cons taskKey rest ih => simp [Respects, ih, and_assoc]

/-- The tasks of one layer wait for finished tasks only. -/
theorem respects_of_waits {finished layer : List Text}
    (hwaits : ∀ taskKey ∈ layer, graph.pending finished taskKey = []) :
    graph.Respects finished layer := by
  induction layer generalizing finished with
  | nil => trivial
  | cons taskKey rest ih =>
      refine ⟨fun dependency => mem_of_pending_eq_nil (hwaits taskKey (by simp)), ?_⟩
      exact ih fun other hother =>
        pending_eq_nil_mono (List.subset_append_left _ _) (hwaits other (by simp [hother]))

/-- The layers list every task after its dependencies. -/
theorem respects_layersFrom (hsimple : graph.Simple)
    (hclosed : ∀ key, key ∉ graph.taskKeys → graph.dependencies key = [])
    (rounds : Nat) {finished ready : List Text} {inDegree : Text → ℤ}
    (hlayering : graph.Layering finished ready ⟨inDegree, []⟩) :
    graph.Respects finished (graph.layersFrom rounds inDegree ready).1.flatten := by
  induction rounds generalizing finished ready inDegree with
  | zero => trivial
  | succ rounds ih =>
      unfold layersFrom
      split
      · trivial
      · have hperm := sortBy_perm Text.value ready
        have hsorted : graph.Layering finished (sortBy Text.value ready) ⟨inDegree, []⟩ := by
          refine ⟨hlayering.inDegree, fun taskKey hmem => ?_, ?_⟩
          · exact hlayering.waits taskKey (by simpa using hmem)
          · have hpermAll : (finished ++ sortBy Text.value ready ++ []).Perm
                (finished ++ ready ++ []) := (hperm.append_left finished).append_right []
            exact hpermAll.nodup_iff.mpr hlayering.distinct
        have hvisited := hsorted.visitAll hsimple hclosed
        set visited := (sortBy Text.value ready).foldl (Degrees.visit graph)
          ⟨inDegree, []⟩ with hvisitedDef
        have hnext : graph.Layering (finished ++ sortBy Text.value ready)
            (sortBy Text.value visited.nextReady) ⟨visited.inDegree, []⟩ := by
          refine ⟨hvisited.inDegree, fun taskKey hmem => ?_, ?_⟩
          · exact hvisited.waits taskKey (by simpa using hmem)
          · have hpermNext : (finished ++ sortBy Text.value ready ++
                sortBy Text.value visited.nextReady ++ []).Perm
                (finished ++ sortBy Text.value ready ++ [] ++ visited.nextReady) := by
              simpa using (sortBy_perm Text.value visited.nextReady).append_left
                (finished ++ sortBy Text.value ready)
            exact hpermNext.nodup_iff.mpr hvisited.distinct
        rw [List.flatten_cons, respects_append]
        exact ⟨respects_of_waits fun taskKey hmem =>
          hsorted.waits taskKey (by simp [hmem]), ih hnext⟩

/-- A list of layers that the planner accepts puts dependencies first. -/
theorem respects_topologicalLayers (hsimple : graph.Simple)
    (hclosed : ∀ key, key ∉ graph.taskKeys → graph.dependencies key = [])
    {layers : List (List Text)} (hlayers : graph.topologicalLayers = .ok layers) :
    graph.Respects [] layers.flatten := by
  unfold topologicalLayers at hlayers
  simp only at hlayers
  split at hlayers
  · cases hlayers
  · cases hlayers
    apply respects_layersFrom hsimple hclosed
    have hpending : ∀ taskKey, graph.pending [] taskKey = graph.dependencies taskKey := by
      intro taskKey
      simp [pending]
    refine ⟨fun taskKey => by rw [hpending], fun taskKey hmem => ?_, ?_⟩
    · have hzero : taskKey ∈ graph.taskKeys ∧ graph.dependencies taskKey = [] := by
        simpa using hmem
      rw [hpending, hzero.2]
    · simpa using nodup_sortBy Text.value (hsimple.keys.filter _)

end DependencyGraph

end PyWorkflowKit.Planning
