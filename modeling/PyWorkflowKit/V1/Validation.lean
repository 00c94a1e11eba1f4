import PyWorkflowKit.Planning.Planner
import PyWorkflowKit.V1.Planning

/-!
# What the validator of version 1 accepts

The validator finishes one task after another.  It accepts a graph whose dependencies are
known and have no cycle, and then the plan has the layers of the graph.
-/

namespace PyWorkflowKit.V1

open Relation
open PyWorkflowKit.Core PyWorkflowKit.Domain
open PyWorkflowKit.Planning (DependencyGraph)

/-- The groups of `ExecutionPlanner.build_plan`. -/
def buildGroups (graph : DependencyGraph) : Except Error (List (List TaskId)) :=
  let ready := graph.taskKeys.filter fun taskId => inDegree graph taskId = 0
  let (groups, counts) :=
    graph.layersFrom (graph.taskKeys.length + 1) (inDegree graph) ready
  if groups.flatten.length ≠ graph.taskKeys.length then
    .error (.planningInvariant ("graph could not be fully planned; remaining tasks: " ++
      ", ".intercalate (remainingTasks graph counts)))
  else if ¬ groups.flatten.Nodup then
    .error (.planningInvariant "each task must appear exactly once in the execution plan")
  else .ok groups

/-- The tasks of a plan are those of its groups. -/
theorem buildPlan_eq_map (graph : DependencyGraph) :
    buildPlan graph = (buildGroups graph).map List.flatten := by
  unfold buildPlan buildGroups
  simp only
  split
  · rfl
  split
  · rfl
  · rfl

section Drain

variable {graph : DependencyGraph}

/-- What the loop of the validator has finished comes after its dependencies, and what is left
waits for something that is left. -/
theorem drainReady_spec (hsimple : graph.Simple)
    (hclosed : ∀ key, key ∉ graph.taskKeys → graph.dependencies key = []) (rounds : Nat)
    {finished : List TaskId} {degrees : DependencyGraph.Degrees}
    (hsweep : graph.Sweep finished [] degrees)
    (hgrounded : ∀ taskId ∈ finished, Grounded graph.Needs taskId)
    (hrounds : graph.taskKeys.length < rounds + finished.length) :
    ∃ last, (drainReady graph rounds degrees).1 + finished.length = last.length ∧
      last.Nodup ∧ last ⊆ graph.taskKeys ∧ (∀ taskId ∈ last, Grounded graph.Needs taskId) ∧
      ∀ taskId ∈ graph.taskKeys, taskId ∉ last →
        ∃ dependency, graph.Needs taskId dependency ∧ dependency ∉ last := by
  have hdistinct : finished.Nodup := by
    have hall := hsweep.distinct
    rw [List.append_assoc] at hall
    exact hall.of_append_left
  have hknown : finished ⊆ graph.taskKeys := fun taskId hmem => hsweep.known (by simp [hmem])
  induction rounds generalizing finished degrees with
  | zero =>
      have hlength := (hdistinct.subperm hknown).length_le
      omega
  | succ rounds ih =>
      rw [drainReady]
      split
      · next hready =>
        have hnone : degrees.nextReady = [] := by
          have hlength := congrArg List.length hready
          rw [length_sortBy] at hlength
          exact List.eq_nil_of_length_eq_zero hlength
        refine ⟨finished, Nat.zero_add _, hdistinct, hknown, hgrounded, ?_⟩
        intro taskId hkey hopen
        by_contra hstuck
        push Not at hstuck
        have hmem := (hsweep.turn.mem_iff taskId).mpr ⟨hkey, hopen, hstuck⟩
        rw [hnone] at hmem
        cases hmem
      · next taskId rest hready =>
        have hturn := hsweep.turn.sorted
        rw [hready] at hturn
        have hfirst := (hturn.mem_iff taskId).mp List.mem_cons_self
        -- the first ready task is visited, the others stay ready
        have hnext : graph.Sweep finished [taskId] ⟨degrees.inDegree, rest⟩ := by
          have hlist : finished ++ [taskId] ++ rest = finished ++ taskId :: rest ++ [] := by simp
          refine ⟨⟨hturn.inDegree, ?_, ?_⟩, ?_, ?_⟩
          · simp only [hlist]
            exact hturn.waits
          · simp only [hlist]
            exact hturn.distinct
          · simp only [hlist]
            exact hturn.complete
          · simp only [hlist]
            exact hturn.known
        have hvisited := hnext.visit hsimple hclosed
        obtain ⟨last, hcount, hrest⟩ := ih hvisited (by
          intro other hother
          rcases List.mem_append.mp hother with hold | hnew
          · exact hgrounded other hold
          · rw [List.mem_singleton.mp hnew]
            exact ⟨_, fun dependency hneeds =>
              hgrounded dependency (hfirst.2.2 dependency hneeds)⟩) (by
          rw [List.length_append, List.length_singleton]
          omega) (by
          have hall := hvisited.distinct
          rw [List.append_assoc] at hall
          exact hall.of_append_left) (fun other hother => hvisited.known
            (List.mem_append_left _ (List.mem_append_left _ hother)))
        refine ⟨last, ?_, hrest⟩
        rw [List.length_append, List.length_singleton] at hcount
        simp only
        omega

/-- The validator accepts exactly the graphs without a cycle. -/
theorem validateAcyclic_iff (hsimple : graph.Simple)
    (hclosed : ∀ key, key ∉ graph.taskKeys → graph.dependencies key = [])
    (hlists : Lists graph.Needs graph.taskKeys) :
    validateAcyclic graph = .ok () ↔ Acyclic graph.Needs := by
  have hstart : graph.Sweep [] [] ⟨inDegree graph,
      graph.taskKeys.filter fun taskId => inDegree graph taskId = 0⟩ := by
    have hpending : ∀ taskId, graph.pending [] taskId = graph.dependencies taskId := by
      intro taskId
      simp [DependencyGraph.pending]
    refine ⟨⟨fun taskId => by rw [hpending]; rfl, fun taskId hmem => ?_, ?_⟩,
      fun taskId hkey hnone => ?_, ?_⟩
    · have hzero : taskId ∈ graph.taskKeys ∧ graph.dependencies taskId = [] := by
        simpa [inDegree] using hmem
      rw [hpending, hzero.2]
    · simpa using hsimple.keys.filter _
    · rw [hpending] at hnone
      simp [inDegree, hkey, hnone]
    · simp
  obtain ⟨last, hcount, hdistinct, hknown, hgrounded, hstuck⟩ :=
    drainReady_spec hsimple hclosed (graph.taskKeys.length + 1) hstart (by simp) (by simp)
  rw [List.length_nil, Nat.add_zero] at hcount
  have hlength : last.length = graph.taskKeys.length ↔ graph.taskKeys ⊆ last := by
    constructor
    · intro hsame
      exact ((hdistinct.subperm hknown).perm_of_length_le hsame.ge).symm.subset
    · intro hall
      exact le_antisymm (hdistinct.subperm hknown).length_le
        (hsimple.keys.subperm hall).length_le
  rw [← finishes_iff_acyclic hlists hgrounded hstuck, ← hlength, ← hcount]
  unfold validateAcyclic
  simp only
  split
  · next hshort => exact iff_of_false (by simp) hshort
  · next hall => exact iff_of_true rfl (not_not.mp hall)

/-- The plan of an accepted graph has the layers of the graph. -/
theorem buildGroups_eq (hsimple : graph.Simple)
    (hclosed : ∀ key, key ∉ graph.taskKeys → graph.dependencies key = [])
    (hlists : Lists graph.Needs graph.taskKeys) (hacyclic : Acyclic graph.Needs)
    (hsorted : graph.taskKeys.Pairwise fun left right => left.value ≤ right.value) :
    buildGroups graph = .ok graph.layers := by
  have hready : sortBy Text.value (graph.taskKeys.filter fun taskId =>
      ((graph.dependencies taskId).length : ℤ) = 0) =
      graph.taskKeys.filter fun taskId => inDegree graph taskId = 0 :=
    sortBy_eq_self _ (hsorted.sublist List.filter_sublist)
  have hlayers : (graph.layersFrom (graph.taskKeys.length + 1) (inDegree graph)
      (graph.taskKeys.filter fun taskId => inDegree graph taskId = 0)).1 = graph.layers := by
    unfold DependencyGraph.layers
    rw [hready]
    rfl
  have hpeels := DependencyGraph.peels_layers hsimple hclosed
  have hdistinct := DependencyGraph.nodup_flatten_layers hsimple hclosed
  have hall := (hpeels.subset_iff_acyclic hlists).mpr hacyclic
  have hlength : graph.layers.flatten.length = graph.taskKeys.length :=
    le_antisymm (hdistinct.subperm hpeels.subset).length_le
      (hsimple.keys.subperm hall).length_le
  unfold buildGroups
  simp only [hlayers]
  rw [if_neg (not_not.mpr hlength), if_neg (not_not.mpr hdistinct)]

/-- Every edge of the graph starts at one of its tasks. -/
theorem validateUnknownDependencies_iff :
    validateUnknownDependencies graph = .ok () ↔
      ∀ taskId ∈ graph.taskKeys, ∀ dependency ∈ graph.dependencies taskId,
        dependency ∈ graph.taskKeys := by
  set unknown := (graph.taskKeys.flatMap fun taskId =>
    (graph.dependencies taskId).map fun dependencyId => (dependencyId, taskId)).filter
      fun edge => edge.1 ∉ graph.taskKeys with hunknown
  have hnone : unknown = [] ↔ ∀ taskId ∈ graph.taskKeys,
      ∀ dependency ∈ graph.dependencies taskId, dependency ∈ graph.taskKeys := by
    rw [hunknown, List.filter_eq_nil_iff]
    constructor
    · intro hall taskId hkey dependency hdependency
      have hedge := hall (dependency, taskId) (List.mem_flatMap.mpr
        ⟨taskId, hkey, List.mem_map_of_mem hdependency⟩)
      simpa using hedge
    · intro hall edge hedge
      obtain ⟨taskId, hkey, hmem⟩ := List.mem_flatMap.mp hedge
      obtain ⟨dependency, hdependency, rfl⟩ := List.mem_map.mp hmem
      simpa using hall taskId hkey dependency hdependency
  rw [← hnone]
  unfold validateUnknownDependencies
  simp only
  rw [← hunknown]
  split
  · next hempty =>
    have hlength := congrArg List.length hempty
    rw [length_sortBy] at hlength
    exact iff_of_true rfl (List.eq_nil_of_length_eq_zero hlength)
  · next hfirst =>
    refine iff_of_false (by simp) fun hempty => ?_
    rw [hempty] at hfirst
    cases hfirst

end Drain

end PyWorkflowKit.V1
