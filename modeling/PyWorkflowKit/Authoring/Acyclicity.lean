import PyWorkflowKit.Authoring.Definitions
import PyWorkflowKit.Core.Layers
import PyWorkflowKit.Core.Table

/-!
# The cycle check of a definition

The check visits one task after another, each when its last dependency has been visited.  It
accepts exactly the tasks whose dependencies have no cycle.
-/

namespace PyWorkflowKit.Authoring

open PyWorkflowKit.Core PyWorkflowKit.Domain

/-- A task with the first key depends on the second. -/
def Depends (tasks : List TaskDefinition) (taskKey dependency : Text) : Prop :=
  ∃ task ∈ tasks, task.key = taskKey ∧ dependency ∈ task.dependencies

/-- Every dependency is the key of a task. -/
def Known (tasks : List TaskDefinition) : Prop :=
  ∀ task ∈ tasks, ∀ dependency ∈ task.dependencies,
    dependency ∈ tasks.map TaskDefinition.key

theorem Known.lists {tasks : List TaskDefinition} (hknown : Known tasks) :
    Lists (Depends tasks) (tasks.map TaskDefinition.key) := by
  rintro taskKey dependency ⟨task, htask, rfl, hdependency⟩
  exact ⟨List.mem_map_of_mem htask, hknown task htask dependency hdependency⟩

/-- The dependencies that have not been visited. -/
def TaskDefinition.waitsFor (task : TaskDefinition) (visited : List Text) : List Text :=
  task.dependencies.filter fun dependency => dependency ∉ visited

theorem TaskDefinition.waitsFor_eq_nil_iff (task : TaskDefinition) (visited : List Text) :
    task.waitsFor visited = [] ↔ ∀ dependency ∈ task.dependencies, dependency ∈ visited := by
  simp [waitsFor, List.filter_eq_nil_iff]

theorem TaskDefinition.erase_waitsFor (task : TaskDefinition) (visited : List Text) (key : Text) :
    (task.waitsFor visited).erase key = task.waitsFor (visited ++ [key]) := by
  have hnodup : (task.waitsFor visited).Nodup := task.distinct.filter _
  rw [hnodup.erase_eq_filter, waitsFor, waitsFor, List.filter_filter]
  apply List.filter_congr
  intro dependency _
  by_cases heq : dependency = key <;> simp [heq]

theorem TaskDefinition.waitsFor_append (task : TaskDefinition) {visited : List Text}
    (hnone : task.waitsFor visited = []) (key : Text) :
    task.waitsFor (visited ++ [key]) = [] := by
  rw [← task.erase_waitsFor, hnone]
  rfl

namespace Peeling

variable {tasks : List TaskDefinition}

/-- The inner loop has released these tasks from waiting for `key`. -/
structure Releasing (tasks : List TaskDefinition) (earlier : List Text) (key : Text)
    (rest done : List Text) (state : Peeling) : Prop where
  visited : state.visited = earlier ++ [key]
  dependencies : state.dependencies = tasks.map fun task =>
    (task.key, task.waitsFor (if task.key ∈ done then earlier ++ [key] else earlier))
  ready : ∀ taskKey, taskKey ∈ state.ready ↔ taskKey ∈ rest ∨
    ∃ task ∈ tasks, task.key = taskKey ∧ taskKey ∈ done ∧ key ∈ task.waitsFor earlier ∧
      task.waitsFor (earlier ++ [key]) = [] ∧ taskKey ∉ earlier ++ [key]
  distinct : state.ready.Nodup

theorem Releasing.release (hdistinct : (tasks.map TaskDefinition.key).Nodup)
    {earlier rest done : List Text} {key : Text} {state : Peeling}
    (hreleasing : Releasing tasks earlier key rest done state) {task : TaskDefinition}
    (htask : task ∈ tasks) (hnew : task.key ∉ done) :
    Releasing tasks earlier key rest (done ++ [task.key]) (state.release key task.key) := by
  have hbefore : (state.dependencies.lookup task.key).getD [] = task.waitsFor earlier := by
    rw [hreleasing.dependencies,
      lookup_map_of_mem (fun other : TaskDefinition =>
        other.waitsFor (if other.key ∈ done then earlier ++ [key] else earlier)) hdistinct htask,
      Option.getD_some, if_neg hnew]
  have hsame : ∀ other ∈ tasks, other.key = task.key → other = task :=
    fun other hother => List.inj_on_of_nodup_map hdistinct hother htask
  have hready : ∀ taskKey, (∃ other ∈ tasks, other.key = taskKey ∧
      taskKey ∈ done ++ [task.key] ∧ key ∈ other.waitsFor earlier ∧
      other.waitsFor (earlier ++ [key]) = [] ∧ taskKey ∉ earlier ++ [key]) ↔
      (∃ other ∈ tasks, other.key = taskKey ∧ taskKey ∈ done ∧ key ∈ other.waitsFor earlier ∧
        other.waitsFor (earlier ++ [key]) = [] ∧ taskKey ∉ earlier ++ [key]) ∨
      taskKey = task.key ∧ key ∈ task.waitsFor earlier ∧ task.waitsFor (earlier ++ [key]) = [] ∧
        taskKey ∉ earlier ++ [key] := by
    intro taskKey
    constructor
    · rintro ⟨other, hother, rfl, hdone, hrest⟩
      rcases List.mem_append.mp hdone with hold | hlast
      · exact Or.inl ⟨other, hother, rfl, hold, hrest⟩
      · have hkey := List.mem_singleton.mp hlast
        rw [hsame other hother hkey] at hrest
        exact Or.inr ⟨hkey, by rw [hkey]; exact hrest⟩
    · rintro (⟨other, hother, hkey, hold, hrest⟩ | ⟨rfl, hrest⟩)
      · exact ⟨other, hother, hkey, List.mem_append_left _ hold, hrest⟩
      · exact ⟨task, htask, rfl, by simp, hrest⟩
  have hafter : (task.waitsFor earlier).erase key = task.waitsFor (earlier ++ [key]) :=
    task.erase_waitsFor earlier key
  -- the entry of the task is the only one that changes
  have hentries : (tasks.map fun other => (other.key, other.waitsFor
      (if other.key ∈ done ++ [task.key] then earlier ++ [key] else earlier))) =
      state.dependencies.map fun entry =>
        if entry.1 = task.key then (entry.1, task.waitsFor (earlier ++ [key])) else entry := by
    rw [hreleasing.dependencies, List.map_map]
    apply List.map_congr_left
    intro other hother
    simp only [Function.comp_apply]
    by_cases hkey : other.key = task.key
    · rw [if_pos hkey, hsame other hother hkey]
      simp
    · simp [hkey]
  unfold Peeling.release
  simp only [hbefore]
  split
  · next hfree =>
    have hunchanged : task.waitsFor (earlier ++ [key]) = task.waitsFor earlier := by
      rw [← hafter, List.erase_of_not_mem hfree]
    refine ⟨hreleasing.visited, ?_, fun taskKey => ?_, hreleasing.distinct⟩
    · rw [hentries, hunchanged]
      refine ((List.map_congr_left fun entry hentry => ?_).trans (List.map_id _)).symm
      rw [hreleasing.dependencies] at hentry
      obtain ⟨other, hother, rfl⟩ := List.mem_map.mp hentry
      simp only [id]
      split
      · next hkey => rw [hsame other hother hkey, if_neg hnew]
      · rfl
    · rw [hreleasing.ready, hready]
      simp [hfree]
  · next hwaits =>
    rw [not_not] at hwaits
    rw [hafter]
    split
    · next hfree =>
      obtain ⟨hnone, hunvisited, hunready⟩ := hfree
      rw [hreleasing.visited] at hunvisited
      refine ⟨hreleasing.visited, hentries.symm, fun taskKey => ?_, ?_⟩
      · rw [hready, ← or_assoc, ← hreleasing.ready]
        simp only [mem_sortBy, List.mem_append, List.mem_singleton]
        constructor
        · rintro (hold | rfl)
          · exact Or.inl hold
          · exact Or.inr ⟨rfl, hwaits, hnone, by simpa using hunvisited⟩
        · rintro (hold | ⟨hkey, -⟩)
          · exact Or.inl hold
          · exact Or.inr hkey
      · apply nodup_sortBy
        apply List.Nodup.append hreleasing.distinct (List.nodup_singleton _)
        intro taskKey hmem hlast
        rw [List.mem_singleton.mp hlast] at hmem
        exact hunready hmem
    · next hkept =>
      refine ⟨hreleasing.visited, hentries.symm, fun taskKey => ?_, hreleasing.distinct⟩
      rw [hready, ← or_assoc, ← hreleasing.ready]
      constructor
      · exact Or.inl
      · rintro (hold | ⟨rfl, -, hnone, hunvisited⟩)
        · exact hold
        · by_contra hunready
          exact hkept ⟨hnone, by rw [hreleasing.visited]; exact hunvisited, hunready⟩

theorem Releasing.releaseAll (hdistinct : (tasks.map TaskDefinition.key).Nodup)
    {earlier rest done : List Text} {key : Text} {state : Peeling} (keys : List Text)
    (hkeys : (done ++ keys).Nodup) (hknown : keys ⊆ tasks.map TaskDefinition.key)
    (hreleasing : Releasing tasks earlier key rest done state) :
    Releasing tasks earlier key rest (done ++ keys) (keys.foldl (Peeling.release key) state) := by
  induction keys generalizing done state with
  | nil => simpa using hreleasing
  | cons first keys ih =>
      obtain ⟨task, htask, rfl⟩ := List.mem_map.mp (hknown List.mem_cons_self)
      have hnew : task.key ∉ done := by
        intro hmem
        exact List.disjoint_of_nodup_append hkeys hmem List.mem_cons_self
      have hnext := ih (by simpa using hkeys)
        (fun _ hmem => hknown (List.mem_cons_of_mem _ hmem))
        (hreleasing.release hdistinct htask hnew)
      simpa using hnext

/-- What holds whenever the check takes the next task: tasks have been visited or are ready
exactly when they wait for nothing. -/
structure Visiting (tasks : List TaskDefinition) (state : Peeling) : Prop where
  dependencies : state.dependencies = tasks.map fun task =>
    (task.key, task.waitsFor state.visited)
  free : ∀ task ∈ tasks,
    task.key ∈ state.visited ++ state.ready ↔ task.waitsFor state.visited = []
  known : state.visited ++ state.ready ⊆ tasks.map TaskDefinition.key
  distinct : (state.visited ++ state.ready).Nodup
  first : ∀ before taskKey after, state.visited = before ++ taskKey :: after →
    ∀ dependency, Depends tasks taskKey dependency → dependency ∈ before

/-- One round of the check. -/
theorem Visiting.round (hdistinct : (tasks.map TaskDefinition.key).Nodup)
    {dependencies : List (Text × List Text)} {key : Text} {rest visited : List Text}
    (hvisiting : Visiting tasks ⟨dependencies, key :: rest, visited⟩) :
    Visiting tasks ((sortBy Text.value (dependencies.map Prod.fst)).foldl (Peeling.release key)
      ⟨dependencies, rest, visited ++ [key]⟩) := by
  obtain ⟨hdependencies, hfree, hknown, hnodup, hfirst⟩ := hvisiting
  simp only at hdependencies hfree hknown hnodup hfirst
  have hkeys : dependencies.map Prod.fst = tasks.map TaskDefinition.key := by
    rw [hdependencies, List.map_map]
    rfl
  rw [hkeys]
  have hsorted : (sortBy Text.value (tasks.map TaskDefinition.key)).Nodup :=
    nodup_sortBy _ hdistinct
  have hstart : Releasing tasks visited key rest [] ⟨dependencies, rest, visited ++ [key]⟩ := by
    refine ⟨rfl, ?_, by simp, ?_⟩
    · simpa using hdependencies
    · exact (List.nodup_cons.mp hnodup.of_append_right).2
  have hend := hstart.releaseAll hdistinct (sortBy Text.value (tasks.map TaskDefinition.key))
    (by simpa using hsorted) (fun taskKey hmem => by simpa using hmem)
  generalize (sortBy Text.value (tasks.map TaskDefinition.key)).foldl (Peeling.release key)
    ⟨dependencies, rest, visited ++ [key]⟩ = last at hend
  have hdone : ∀ task ∈ tasks, task.key ∈ [] ++ sortBy Text.value
      (tasks.map TaskDefinition.key) := by
    intro task htask
    simpa using ⟨task, htask, rfl⟩
  have hunvisited : key ∉ visited := fun hmem =>
    List.disjoint_of_nodup_append hnodup hmem List.mem_cons_self
  refine ⟨?_, fun task htask => ?_, ?_, ?_, ?_⟩
  · rw [hend.dependencies, hend.visited]
    apply List.map_congr_left
    intro task htask
    rw [if_pos (hdone task htask)]
  · rw [hend.visited, List.mem_append, hend.ready]
    have hbefore := hfree task htask
    rw [List.mem_append, List.mem_cons] at hbefore
    rw [List.mem_append, List.mem_singleton]
    constructor
    · rintro ((hold | hkey) | hrest | ⟨other, hother, hkey, -, -, hnone, -⟩)
      · exact task.waitsFor_append (hbefore.mp (Or.inl hold)) key
      · exact task.waitsFor_append (hbefore.mp (Or.inr (Or.inl hkey))) key
      · exact task.waitsFor_append (hbefore.mp (Or.inr (Or.inr hrest))) key
      · rwa [List.inj_on_of_nodup_map hdistinct hother htask hkey] at hnone
    · intro hnone
      by_cases hwaits : task.waitsFor visited = []
      · have hold := hbefore.mpr hwaits
        tauto
      · have hkey : key ∈ task.waitsFor visited := by
          by_contra hother
          rw [← task.erase_waitsFor, List.erase_of_not_mem hother] at hnone
          exact hwaits hnone
        by_cases hmem : task.key ∈ visited ++ [key]
        · rw [List.mem_append, List.mem_singleton] at hmem
          exact Or.inl hmem
        · exact Or.inr (Or.inr ⟨task, htask, rfl, hdone task htask, hkey, hnone,
            by simpa using hmem⟩)
  · rw [hend.visited]
    intro taskKey hmem
    rw [List.mem_append, hend.ready] at hmem
    rcases hmem with hold | hrest | ⟨task, htask, rfl, -⟩
    · apply hknown
      rw [List.mem_append, List.mem_singleton] at hold
      rw [List.mem_append, List.mem_cons]
      tauto
    · exact hknown (List.mem_append_right _ (List.mem_cons_of_mem _ hrest))
    · exact List.mem_map_of_mem htask
  · rw [hend.visited]
    refine List.Nodup.append ?_ hend.distinct ?_
    · refine List.Nodup.append hnodup.of_append_left (List.nodup_singleton _) ?_
      intro taskKey hmem hlast
      rw [List.mem_singleton.mp hlast] at hmem
      exact hunvisited hmem
    · intro taskKey hvisited hready
      rcases (hend.ready taskKey).mp hready with hrest | ⟨_, _, _, _, _, _, hnew⟩
      · rcases List.mem_append.mp hvisited with hold | hlast
        · exact List.disjoint_of_nodup_append hnodup hold (List.mem_cons_of_mem _ hrest)
        · rw [List.mem_singleton.mp hlast] at hrest
          exact (List.nodup_cons.mp hnodup.of_append_right).1 hrest
      · exact hnew hvisited
  · intro before taskKey after hsplit dependency hdepends
    rw [hend.visited] at hsplit
    rcases List.eq_nil_or_concat after with rfl | ⟨after, final, rfl⟩
    · obtain ⟨rfl, hlast⟩ := List.append_inj' hsplit rfl
      cases hlast
      obtain ⟨task, htask, rfl, hdependency⟩ := hdepends
      have hnone := (hfree task htask).mp (List.mem_append_right _ List.mem_cons_self)
      exact (task.waitsFor_eq_nil_iff visited).mp hnone dependency hdependency
    · have hsplit' : visited ++ [key] = (before ++ taskKey :: after) ++ [final] := by
        simpa using hsplit
      exact hfirst before taskKey after (List.append_inj' hsplit' rfl).1 dependency hdepends

/-- Before the first round nothing has been visited. -/
theorem visiting_start (hdistinct : (tasks.map TaskDefinition.key).Nodup) :
    Visiting tasks ⟨tasks.map fun task => (task.key, task.dependencies),
      sortBy Text.value (((tasks.map fun task => (task.key, task.dependencies)).filter
        fun entry => entry.2 = []).map Prod.fst), []⟩ := by
  have hwaits : ∀ task : TaskDefinition, task.waitsFor [] = task.dependencies := by
    intro task
    simp [TaskDefinition.waitsFor]
  have hready : ((tasks.map fun task => (task.key, task.dependencies)).filter
      fun entry => entry.2 = []).map Prod.fst =
      (tasks.filter fun task => task.dependencies = []).map TaskDefinition.key := by
    rw [List.filter_map, List.map_map]
    rfl
  rw [hready]
  refine ⟨by simp [hwaits], fun task htask => ?_, fun taskKey hmem => ?_, ?_, by simp⟩
  · rw [hwaits, List.nil_append, mem_sortBy, List.mem_map]
    constructor
    · rintro ⟨other, hother, hkey⟩
      obtain ⟨hmem, hnone⟩ := List.mem_filter.mp hother
      rw [← List.inj_on_of_nodup_map hdistinct hmem htask hkey]
      simpa using hnone
    · intro hnone
      exact ⟨task, List.mem_filter.mpr ⟨htask, by simpa using hnone⟩, rfl⟩
  · rw [List.nil_append, mem_sortBy] at hmem
    exact (List.filter_sublist.map _).subset hmem
  · rw [List.nil_append]
    exact nodup_sortBy _ (hdistinct.sublist (List.filter_sublist.map _))

theorem visited_foldl_release (key : Text) (keys : List Text) (state : Peeling) :
    (keys.foldl (Peeling.release key) state).visited = state.visited := by
  induction keys generalizing state with
  | nil => rfl
  | cons first keys ih =>
      rw [List.foldl_cons, ih]
      unfold Peeling.release
      simp only
      split
      · rfl
      · split <;> rfl

/-- With enough rounds the check goes on until nothing is ready. -/
theorem Visiting.run (hdistinct : (tasks.map TaskDefinition.key).Nodup) (rounds : Nat)
    {state : Peeling} (hvisiting : Visiting tasks state)
    (hrounds : tasks.length < rounds + state.visited.length) :
    Visiting tasks (run rounds state) ∧ (run rounds state).ready = [] := by
  induction rounds generalizing state with
  | zero =>
      have hlength := (List.Nodup.subperm hvisiting.distinct.of_append_left
        fun taskKey hmem => hvisiting.known (List.mem_append_left _ hmem)).length_le
      rw [List.length_map] at hlength
      omega
  | succ rounds ih =>
      rcases state with ⟨dependencies, ready, visited⟩
      cases ready with
      | nil => exact ⟨hvisiting, rfl⟩
      | cons key rest =>
          have hround := hvisiting.round hdistinct
          apply ih hround
          rw [visited_foldl_release, List.length_append, List.length_singleton]
          simp only at hrounds
          omega

end Peeling

/-- The check accepts exactly the tasks whose dependencies have no cycle. -/
theorem validateAcyclic_iff {tasks : List TaskDefinition}
    (hdistinct : (tasks.map TaskDefinition.key).Nodup) (hknown : Known tasks) :
    validateAcyclic tasks = .ok () ↔ Acyclic (Depends tasks) := by
  obtain ⟨hvisiting, hready⟩ := (Peeling.visiting_start hdistinct).run hdistinct
    (tasks.length + 1) (by simp)
  unfold validateAcyclic
  simp only
  generalize Peeling.run (tasks.length + 1) _ = last at hvisiting hready ⊢
  have hlength : last.visited.length = tasks.length ↔
      tasks.map TaskDefinition.key ⊆ last.visited := by
    have hnodup := hvisiting.distinct.of_append_left
    have hsubset : last.visited ⊆ tasks.map TaskDefinition.key :=
      fun taskKey hmem => hvisiting.known (List.mem_append_left _ hmem)
    constructor
    · intro hsame
      have hperm := (List.Nodup.subperm hnodup hsubset).perm_of_length_le (by simp [hsame])
      exact hperm.symm.subset
    · intro hall
      have hle := (List.Nodup.subperm hdistinct hall).length_le
      have hge := (List.Nodup.subperm hnodup hsubset).length_le
      rw [List.length_map] at hle hge
      omega
  rw [← finishes_iff_acyclic hknown.lists (grounded_of_mem hvisiting.first), ← hlength]
  · split
    · next hall => exact iff_of_true rfl hall
    · next hall => exact iff_of_false (by simp) hall
  · intro taskKey hkey hopen
    obtain ⟨task, htask, rfl⟩ := List.mem_map.mp hkey
    have hfree := hvisiting.free task htask
    rw [hready, List.append_nil] at hfree
    by_contra hnone
    push Not at hnone
    refine hopen (hfree.mpr ((task.waitsFor_eq_nil_iff _).mpr fun dependency hmem => ?_))
    exact hnone dependency ⟨task, htask, rfl, hmem⟩

end PyWorkflowKit.Authoring
