import PyWorkflowKit.Core.Layers
import PyWorkflowKit.Planning.Graph

/-!
# Layers by depth

The layering of the planner takes in each round all tasks whose dependencies are finished.
-/

namespace PyWorkflowKit.Planning

namespace DependencyGraph

open PyWorkflowKit.Core PyWorkflowKit.Domain

/-- One task depends on another. -/
def Needs (graph : DependencyGraph) (taskKey dependency : Text) : Prop :=
  dependency ∈ graph.dependencies taskKey

/-- All tasks that are not waiting have been taken up, and only tasks have. -/
structure Sweep (graph : DependencyGraph) (finished layer : List Text) (degrees : Degrees) :
    Prop extends Layering graph finished layer degrees where
  complete : ∀ taskKey ∈ graph.taskKeys, graph.pending finished taskKey = [] →
    taskKey ∈ finished ++ layer ++ degrees.nextReady
  known : finished ++ layer ++ degrees.nextReady ⊆ graph.taskKeys

variable {graph : DependencyGraph}

theorem Sweep.visit (hsimple : graph.Simple)
    (hclosed : ∀ key, key ∉ graph.taskKeys → graph.dependencies key = [])
    {finished layer : List Text} {taskKey : Text} {degrees : Degrees}
    (hsweep : graph.Sweep finished (taskKey :: layer) degrees) :
    graph.Sweep (finished ++ [taskKey]) layer (degrees.visit graph taskKey) := by
  have hnext : (degrees.visit graph taskKey).nextReady = degrees.nextReady ++
      (graph.downstream taskKey).filter fun key => degrees.inDegree key - 1 = 0 :=
    (foldl_finishEdge (graph.downstream taskKey) (hsimple.keys.filter _) degrees).2
  have hfresh : taskKey ∉ finished := by
    have hdistinct := hsweep.distinct
    rw [List.append_assoc] at hdistinct
    exact fun hmem => List.disjoint_of_nodup_append hdistinct hmem (by simp)
  refine ⟨hsweep.toLayering.visit hsimple hclosed, fun other hother hpending => ?_, ?_⟩
  · rw [hnext]
    by_cases hbefore : graph.pending finished other = []
    · have hold := hsweep.complete other hother hbefore
      simp only [List.mem_append, List.mem_cons] at hold ⊢
      tauto
    · have hneeds : taskKey ∈ graph.dependencies other := by
        by_contra hnot
        rw [pending_append_of_not_mem hnot] at hpending
        exact hbefore hpending
      have hcount := length_pending_append hsimple hneeds hfresh
      rw [hpending, List.length_nil] at hcount
      have hdegree := hsweep.inDegree other
      have hnew : other ∈ (graph.downstream taskKey).filter fun key =>
          degrees.inDegree key - 1 = 0 := by
        rw [List.mem_filter]
        refine ⟨?_, ?_⟩
        · simpa [downstream, hother] using hneeds
        · simp only [decide_eq_true_eq]
          omega
      exact List.mem_append_right _ (List.mem_append_right _ hnew)
  · rw [hnext, ← List.append_assoc, List.append_subset]
    refine ⟨fun other hother => hsweep.known (by simpa using hother), fun other hother => ?_⟩
    exact (List.mem_filter.mp (List.mem_filter.mp hother).1).1

theorem Sweep.visitAll (hsimple : graph.Simple)
    (hclosed : ∀ key, key ∉ graph.taskKeys → graph.dependencies key = [])
    {finished layer : List Text} {degrees : Degrees}
    (hsweep : graph.Sweep finished layer degrees) :
    graph.Sweep (finished ++ layer) [] (layer.foldl (Degrees.visit graph) degrees) := by
  induction layer generalizing finished degrees with
  | nil => simpa using hsweep
  | cons taskKey rest ih =>
      have hrest := ih (hsweep.visit hsimple hclosed)
      simpa using hrest

/-- What is about to be visited may be sorted. -/
theorem Sweep.sorted {finished ready : List Text} {inDegree : Text → ℤ}
    (hsweep : graph.Sweep finished ready ⟨inDegree, []⟩) :
    graph.Sweep finished (sortBy Text.value ready) ⟨inDegree, []⟩ := by
  have hperm : (finished ++ sortBy Text.value ready ++ []).Perm (finished ++ ready ++ []) :=
    ((sortBy_perm Text.value ready).append_left finished).append_right []
  refine ⟨⟨hsweep.inDegree, fun taskKey hmem => ?_, ?_⟩, fun taskKey hkey hpending => ?_, ?_⟩
  · exact hsweep.waits taskKey (hperm.mem_iff.mp hmem)
  · exact hperm.nodup_iff.mpr hsweep.distinct
  · exact hperm.mem_iff.mpr (hsweep.complete taskKey hkey hpending)
  · exact fun taskKey hmem => hsweep.known (hperm.mem_iff.mp hmem)

/-- After a round the tasks it has made ready are about to be visited. -/
theorem Sweep.turn {finished : List Text} {degrees : Degrees}
    (hsweep : graph.Sweep finished [] degrees) :
    graph.Sweep finished degrees.nextReady ⟨degrees.inDegree, []⟩ := by
  refine ⟨⟨hsweep.inDegree, ?_, ?_⟩, ?_, ?_⟩
  · simpa using hsweep.waits
  · simpa using hsweep.distinct
  · simpa using hsweep.complete
  · simpa using hsweep.known

/-- The tasks about to be visited are those that are open and do not wait. -/
theorem Sweep.mem_iff {finished ready : List Text} {inDegree : Text → ℤ}
    (hsweep : graph.Sweep finished ready ⟨inDegree, []⟩) (taskKey : Text) :
    taskKey ∈ ready ↔ taskKey ∈ graph.taskKeys ∧ taskKey ∉ finished ∧
      ∀ dependency, graph.Needs taskKey dependency → dependency ∈ finished := by
  constructor
  · intro hmem
    refine ⟨hsweep.known (by simp [hmem]), fun hold => ?_, fun dependency hneeds => ?_⟩
    · have hdistinct := hsweep.distinct
      rw [List.append_nil] at hdistinct
      exact List.disjoint_of_nodup_append hdistinct hold hmem
    · exact mem_of_pending_eq_nil (hsweep.waits taskKey (by simp [hmem])) hneeds
  · rintro ⟨hkey, hopen, hneeds⟩
    have hpending : graph.pending finished taskKey = [] := by
      apply List.filter_eq_nil_iff.mpr
      intro dependency hdependency
      simpa using hneeds dependency hdependency
    have hmem := hsweep.complete taskKey hkey hpending
    rw [List.append_nil, List.mem_append] at hmem
    exact hmem.resolve_left hopen

/-- With enough rounds the layering goes on until nothing is ready. -/
theorem peels_layersFrom (hsimple : graph.Simple)
    (hclosed : ∀ key, key ∉ graph.taskKeys → graph.dependencies key = [])
    (rounds : Nat) {finished ready : List Text} {inDegree : Text → ℤ}
    (hsweep : graph.Sweep finished ready ⟨inDegree, []⟩)
    (hrounds : graph.taskKeys.length < rounds + finished.length) :
    Peels graph.Needs graph.taskKeys finished (graph.layersFrom rounds inDegree ready).1 := by
  induction rounds generalizing finished ready inDegree with
  | zero =>
      have hnodup : finished.Nodup := by
        have hdistinct := hsweep.distinct
        rw [List.append_assoc] at hdistinct
        exact hdistinct.of_append_left
      have hsubset : finished ⊆ graph.taskKeys :=
        fun taskKey hmem => hsweep.known (by simp [hmem])
      have hlength := (List.Nodup.subperm hnodup hsubset).length_le
      omega
  | succ rounds ih =>
      unfold layersFrom
      split
      · next hready =>
        intro taskKey hkey hopen
        by_contra hnone
        push Not at hnone
        have hmem := (hsweep.mem_iff taskKey).mpr ⟨hkey, hopen, hnone⟩
        rw [hready] at hmem
        cases hmem
      · next hready =>
        refine ⟨hsweep.sorted.mem_iff, ?_⟩
        have hnext := (hsweep.sorted.visitAll hsimple hclosed).turn.sorted
        apply ih hnext
        have hpositive := List.length_pos_iff.mpr hready
        rw [List.length_append, length_sortBy]
        omega

/-- Every layer is sorted and lists a task once. -/
theorem sorted_layersFrom (hsimple : graph.Simple)
    (hclosed : ∀ key, key ∉ graph.taskKeys → graph.dependencies key = [])
    (rounds : Nat) {finished ready : List Text} {inDegree : Text → ℤ}
    (hsweep : graph.Sweep finished ready ⟨inDegree, []⟩) :
    ∀ layer ∈ (graph.layersFrom rounds inDegree ready).1, layer ≠ [] ∧
      layer.Pairwise fun left right => left.value < right.value := by
  induction rounds generalizing finished ready inDegree with
  | zero => simp [layersFrom]
  | succ rounds ih =>
      unfold layersFrom
      split
      · simp
      · next hready =>
        have hdistinct := hsweep.distinct
        rw [List.append_nil] at hdistinct
        rw [List.forall_mem_cons]
        refine ⟨⟨?_, ?_⟩, ih (hsweep.sorted.visitAll hsimple hclosed).turn.sorted⟩
        · rw [← List.length_pos_iff, length_sortBy, List.length_pos_iff]
          exact hready
        · apply sortBy_pairwise_lt
          exact hdistinct.of_append_right.map fun _ _ => Text.ext

/-- The tasks without dependencies are the first to be visited. -/
theorem sweep_start (hsimple : graph.Simple) :
    graph.Sweep [] (sortBy Text.value (graph.taskKeys.filter fun taskKey =>
      ((graph.dependencies taskKey).length : ℤ) = 0))
      ⟨fun taskKey => ((graph.dependencies taskKey).length : ℤ), []⟩ := by
  have hpending : ∀ taskKey, graph.pending [] taskKey = graph.dependencies taskKey := by
    intro taskKey
    simp [pending]
  apply Sweep.sorted
  refine ⟨⟨fun taskKey => by rw [hpending], fun taskKey hmem => ?_, ?_⟩,
    fun taskKey hkey hnone => ?_, ?_⟩
  · rw [hpending]
    have hzero : taskKey ∈ graph.taskKeys ∧ graph.dependencies taskKey = [] := by
      simpa using hmem
    exact hzero.2
  · simpa using hsimple.keys.filter _
  · rw [hpending] at hnone
    simp [hkey, hnone]
  · simp

end DependencyGraph

end PyWorkflowKit.Planning
