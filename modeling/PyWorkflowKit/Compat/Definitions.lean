import PyWorkflowKit.Compat.Migration
import PyWorkflowKit.Planning.Compilation

/-!
# What migrated definitions hold

A workflow that can be migrated keeps its tasks and their dependencies, so that both versions
build one dependency graph for it.
-/

namespace PyWorkflowKit.Compat

open PyWorkflowKit.Core PyWorkflowKit.Domain PyWorkflowKit.Planning
open PyWorkflowKit.Authoring

section Collections

variable {α β : Type} {f : α → Except MigrationError β}

theorem forall₂_of_collect {inputs : List α} {values : List β}
    (hcollect : collect f inputs = .ok values) :
    List.Forall₂ (fun input value => f input = .ok value) inputs values := by
  induction inputs generalizing values with
  | nil =>
      cases hcollect
      exact .nil
  | cons first rest ih =>
      obtain ⟨value, hvalue, hcollect⟩ := bind_eq_ok hcollect
      obtain ⟨others, hothers, hcollect⟩ := bind_eq_ok hcollect
      cases hcollect
      exact .cons hvalue (ih hothers)

/-- Results are collected when all of them are values. -/
theorem exists_collect {inputs : List α} (hall : ∀ input ∈ inputs, ∃ value, f input = .ok value) :
    ∃ values, collect f inputs = .ok values := by
  induction inputs with
  | nil => exact ⟨[], rfl⟩
  | cons first rest ih =>
      obtain ⟨value, hvalue⟩ := hall first List.mem_cons_self
      obtain ⟨others, hothers⟩ := ih fun input hinput => hall input (List.mem_cons_of_mem _ hinput)
      exact ⟨value :: others, by rw [collect, hvalue, hothers]; rfl⟩

theorem raising_eq_ok_iff {result : Except PyError α} {value : α} :
    raising result = .ok value ↔ result = .ok value := by
  cases result with
  | error error => exact iff_of_false (by simp [raising, Except.mapError]) (by simp)
  | ok inner => simp [raising, Except.mapError]

end Collections

section Executors

/-- A dictionary that is updated answers with the update first. -/
theorem find?_foldl_set {κ ν : Type} [DecidableEq κ] {key : ν → κ} {rows : List ν}
    (hdistinct : (rows.map key).Nodup) (table : Table key) (wanted : κ) :
    (rows.foldl Table.set table).find? wanted =
      (rows.find? fun row => key row = wanted).or (table.find? wanted) := by
  induction rows generalizing table with
  | nil => rfl
  | cons first rest ih =>
      obtain ⟨hfirst, hrest⟩ := List.nodup_cons.mp hdistinct
      rw [List.foldl_cons, ih hrest, List.find?_cons]
      by_cases hkey : key first = wanted
      · have hnone : (rest.find? fun row => key row = wanted) = none := by
          rw [List.find?_eq_none]
          intro row hrow heq
          apply hfirst
          rw [hkey, ← of_decide_eq_true heq]
          exact List.mem_map_of_mem hrow
        rw [hnone, decide_eq_true hkey, ← hkey, Table.find?_set_self]
        rfl
      · rw [decide_eq_false hkey, Table.find?_set_of_ne _ _ hkey]

/-- Updating the defaults once more changes nothing. -/
theorem find?_executorMapping (executorMap : Option ExecutorMap) (executorKey : String) :
    (executorMapping (some (executorMapping executorMap))).find? executorKey =
      (executorMapping executorMap).find? executorKey := by
  have hupdated : ∀ given : ExecutorMap, (executorMapping (some given)).find? executorKey =
      (given.find? executorKey).or (defaultExecutorMap.find? executorKey) :=
    fun given => find?_foldl_set given.nodup _ _
  rw [hupdated]
  cases executorMap with
  | none => exact Option.or_self
  | some given => rw [hupdated, Option.or_assoc, Option.or_self]

end Executors

section Freezing

/-- Strings and lists of strings are frozen as they are. -/
def Freezes (value : PyValue) : Prop :=
  ∀ path, ∃ frozen, freezeJsonValue path value = .ok frozen

theorem freezes_str (text : String) : Freezes (.str text) := fun _ => ⟨_, rfl⟩

theorem freezes_strs (texts : List String) : Freezes (.list (texts.map .str)) := by
  have hitems : ∀ (path : String) (index : Nat),
      gather (freezeItems path index (texts.map .str)) = .ok (texts.map .str) := by
    intro path
    induction texts with
    | nil => exact fun _ => rfl
    | cons first rest ih =>
        intro index
        simp only [List.map_cons, freezeItems, gather, ih]
        rfl
  intro path
  exact ⟨_, by rw [freezeJsonValue, hitems]; rfl⟩

theorem exists_freeze {members : List (PyKey × PyValue)}
    (hmembers : ∀ member ∈ members, ∃ key, member.1 = .str key ∧ isBlank key = false ∧
      Freezes member.2) :
    ∃ metadata, Metadata.freeze members = .ok metadata := by
  have hall : ∀ result ∈ members.map freezeMember, ∃ frozen, result = .ok frozen := by
    intro result hresult
    obtain ⟨⟨key, value⟩, hmember, rfl⟩ := List.mem_map.mp hresult
    obtain ⟨name, rfl, hname, hvalue⟩ := hmembers _ hmember
    obtain ⟨json, hjson⟩ := hvalue ("metadata." ++ name)
    exact ⟨(name, json), by simp [freezeMember, hname, hjson, Except.map]⟩
  obtain ⟨frozen, hfrozen⟩ := exists_gather_iff.mpr hall
  unfold Metadata.freeze
  split
  · next error herror =>
    rw [hfrozen] at herror
    cases herror
  · exact ⟨_, rfl⟩

end Freezing

section Tasks

theorem requireText_value (text : Text) (message : String) :
    requireText (.text text.value) message = .ok text := by
  simp only [requireText, Text.ofString?_value]

theorem requireDependencies_values (dependencies : List Text) :
    requireDependencies (dependencies.map Text.value) = .ok dependencies := by
  unfold requireDependencies
  rw [List.map_map]
  apply gather_map_eq_ok
  rw [List.forall₂_same]
  exact fun dependency _ => requireText_value dependency _

/-- Nothing keeps a task from its migration. -/
structure MigratableTask (executorMap : Option ExecutorMap) (task : LegacyTask) : Prop where
  handler : task.handlerRef ≠ none
  executor : ∃ executor, (executorMapping executorMap).find? task.executorKey.value =
    some executor ∧ isBlank executor.2 = false
  timeout : task.timeoutMode ≠ .hard
  categories : ∀ category ∈ task.retryPolicy.retryableErrorCategories,
    ∃ mapped, mapLegacyRetryCategory category = .ok mapped

/-- What a migrated task keeps. -/
structure Keeps (task : LegacyTask) (declaration : TaskDeclaration) : Prop where
  key : declaration.key = task.taskId
  dependencies : declaration.dependencies = task.dependsOn
  workload : ∃ workload, declaration.workload = .registered workload ∧ workload.parameters = []
  retryPolicy : ∃ categories,
    collect mapLegacyRetryCategory task.retryPolicy.retryableErrorCategories = .ok categories ∧
      declaration.retryPolicy = migratedRetryPolicy task.retryPolicy categories

theorem freezes_taskMetadata (task : LegacyTask) :
    ∃ metadata, Metadata.freeze (taskMetadata task) = .ok metadata := by
  apply exists_freeze
  intro member hmember
  unfold taskMetadata at hmember
  rw [List.mem_append, List.mem_append] at hmember
  rcases hmember with (hnamed | hdescribed) | htagged
  · rcases List.mem_cons.mp hnamed with rfl | hexecutor
    · exact ⟨_, rfl, by decide, freezes_str _⟩
    · rw [List.mem_singleton.mp hexecutor]
      exact ⟨_, rfl, by decide, freezes_str _⟩
  · split at hdescribed
    · cases hdescribed
    · rw [List.mem_singleton.mp hdescribed]
      exact ⟨_, rfl, by decide, freezes_str _⟩
  · split at htagged
    · cases htagged
    · rw [List.mem_singleton.mp htagged]
      exact ⟨_, rfl, by decide, freezes_strs _⟩

/-- Arguments that pass every check of a task. -/
theorem exists_define {arguments : TaskArguments} {key : Text} {dependencies : List Text}
    (hkey : arguments.key = key.value) (hworkload : arguments.workload ≠ none)
    (hdependencies : arguments.dependsOn.map DependencyArgument.text =
      dependencies.map Text.value) (hdistinct : dependencies.Nodup) (hself : key ∉ dependencies)
    (hinputs : arguments.inputs = []) (houtputs : arguments.outputs = [])
    (hmetadata : ∃ metadata, Metadata.freeze (arguments.metadata.getD []) = .ok metadata) :
    ∃ task, arguments.define = .ok task := by
  have hvalues : (dependencies.map Text.value).Nodup := hdistinct.map fun _ _ => Text.ext
  obtain ⟨metadata, hmetadata⟩ := hmetadata
  unfold TaskArguments.define
  simp only [hkey, requireText_value, hdependencies]
  split
  · next hnone => exact absurd hnone hworkload
  split
  · next hrepeated => exact absurd hvalues hrepeated
  split
  · next error herror =>
    rw [hdependencies, requireDependencies_values] at herror
    cases herror
  · next required hrequired =>
    rw [hdependencies, requireDependencies_values] at hrequired
    cases hrequired
    rw [dif_neg hself, dif_neg (by simp [hinputs]), dif_neg (by simp [houtputs])]
    simp only [hmetadata]
    exact ⟨_, rfl⟩

variable {executorMap : Option ExecutorMap} {task : LegacyTask}

/-- A task that can be migrated is. -/
theorem exists_migrateTask (hmigratable : MigratableTask executorMap task) :
    ∃ declaration,
      migrateTaskDefinition (some (executorMapping executorMap)) task = .ok declaration := by
  obtain ⟨handlerRef, hhandler⟩ := Option.ne_none_iff_exists'.mp hmigratable.handler
  obtain ⟨executor, hexecutor, hkey⟩ := hmigratable.executor
  obtain ⟨categories, hcategories⟩ := exists_collect hmigratable.categories
  have hworkload : ∃ workload, registeredWorkload handlerRef executor.2 = .ok workload := by
    have htext : Text.ofString? executor.2 = some ⟨executor.2, hkey⟩ := dif_pos hkey
    exact ⟨_, by simp only [registeredWorkload, requireText, htext]; rfl⟩
  obtain ⟨workload, hworkload⟩ := hworkload
  unfold migrateTaskDefinition
  simp only [hhandler, if_neg hmigratable.timeout, find?_executorMapping, hexecutor, hcategories,
    hworkload]
  have hdefine : ∃ declaration, TaskArguments.define {
      key := task.taskId.value
      workload := some ⟨.registered workload, .none, by simp⟩
      dependsOn := task.dependsOn.map fun taskId => .key taskId.value
      retryPolicy := some (migratedRetryPolicy task.retryPolicy categories)
      timeoutPolicy := some (migratedTimeoutPolicy task.toTaskDefinition)
      triggerRule := .allSuccess
      inputs := []
      outputs := []
      metadata := some (taskMetadata task) } = .ok declaration :=
    exists_define rfl (by simp) (List.map_map ..) task.distinct task.irreflexive rfl rfl
      (freezes_taskMetadata task)
  obtain ⟨declaration, hdeclaration⟩ := hdefine
  exact ⟨declaration, raising_eq_ok_iff.mpr hdeclaration⟩

/-- A migrated task keeps its key, its dependencies and its retry policy. -/
theorem keeps_of_migrateTask {declaration : TaskDeclaration}
    (hmigrated : migrateTaskDefinition executorMap task = .ok declaration) :
    Keeps task declaration := by
  unfold migrateTaskDefinition at hmigrated
  split at hmigrated
  · cases hmigrated
  next handlerRef hhandler =>
  split at hmigrated
  · cases hmigrated
  split at hmigrated
  · cases hmigrated
  obtain ⟨categories, hcategories, hmigrated⟩ := bind_eq_ok hmigrated
  obtain ⟨workload, hworkload, hmigrated⟩ := bind_eq_ok hmigrated
  have hregistered := raising_eq_ok_iff.mp hworkload
  unfold registeredWorkload at hregistered
  obtain ⟨_, _, hregistered⟩ := bind_eq_ok hregistered
  cases hregistered
  obtain ⟨hkey, ⟨argument, hargument, hsame⟩, hdependencies, hpolicy⟩ :=
    fields_of_define (raising_eq_ok_iff.mp hmigrated)
  cases hargument
  have hvalues : declaration.dependencies.map Text.value = task.dependsOn.map Text.value := by
    rw [hdependencies, List.map_map]
    rfl
  exact {
    key := Text.ext hkey
    dependencies := (List.map_injective_iff.mpr fun _ _ => Text.ext) hvalues
    workload := ⟨_, hsame, rfl⟩
    retryPolicy := ⟨categories, hcategories, hpolicy⟩ }

end Tasks

section Workflows

/-- Nothing but its dependencies keeps a workflow from its migration. -/
structure Migratable (executorMap : Option ExecutorMap) (workflow : LegacyWorkflow) : Prop where
  parameters : workflow.definition.parameters = []
  tasks : ∀ task ∈ workflow.tasks, MigratableTask executorMap task

variable {executorMap : Option ExecutorMap} {workflow : LegacyWorkflow}
  {declarations : List TaskDeclaration}

/-- The definitions of some declarations. -/
abbrev definitionsOf (declarations : List TaskDeclaration) :
    List Authoring.TaskDefinition :=
  declarations.map TaskDeclaration.toTaskDefinition

/-- Both versions build one dependency graph. -/
theorem ofTasks_eq (hkept : List.Forall₂ Keeps workflow.tasks declarations) :
    DependencyGraph.ofTasks (definitionsOf declarations) =
      V1.buildDependencyGraph workflow.definition := by
  unfold DependencyGraph.ofTasks V1.buildDependencyGraph V1.WorkflowDefinition.task? definitionsOf
  rw [workflow.declared]
  congr 1
  · rw [List.map_map, List.map_map]
    congr 1
    rw [← List.forall₂_eq_eq_eq, List.forall₂_map_left_iff, List.forall₂_map_right_iff]
    exact (hkept.imp fun _ _ hkeeps => hkeeps.key).flip
  · funext taskKey
    rw [List.find?_map, List.find?_map]
    have hfound : Option.Rel Keeps
        (workflow.tasks.find? ((fun task => task.taskId = taskKey) ∘ LegacyTask.toTaskDefinition))
        (declarations.find? ((fun task => task.key = taskKey) ∘
          TaskDeclaration.toTaskDefinition)) :=
      find?_of_forall₂ (fun _ _ hkeeps => hkeeps.key.symm) hkept taskKey
    revert hfound
    generalize workflow.tasks.find? _ = found
    generalize declarations.find? _ = other
    intro hfound
    cases hfound with
    | none => rfl
    | some hkeeps => exact congrArg (sortBy Text.value) hkeeps.dependencies

/-- A migrated workflow has the tasks of the workflow, in their order. -/
theorem kept_of_collect (hcollect : collect (migrateTaskDefinition
    (some (executorMapping executorMap))) workflow.tasks = .ok declarations) :
    List.Forall₂ Keeps workflow.tasks declarations :=
  (forall₂_of_collect hcollect).imp fun _ _ hmigrated => keeps_of_migrateTask hmigrated

theorem keys_of_kept (hkept : List.Forall₂ Keeps workflow.tasks declarations) :
    (definitionsOf declarations).map TaskDefinition.key =
      workflow.definition.tasks.map V1.TaskDefinition.taskId := by
  unfold definitionsOf
  rw [workflow.declared, List.map_map, List.map_map, ← List.forall₂_eq_eq_eq,
    List.forall₂_map_left_iff, List.forall₂_map_right_iff]
  exact (hkept.imp fun _ _ hkeeps => hkeeps.key).flip

/-- The constructor accepts tasks whose dependencies are known and have no cycle. -/
theorem validateTasks_iff {tasks : List TaskDefinition}
    (hdistinct : (tasks.map TaskDefinition.key).Nodup) :
    validateTasks tasks = .ok () ↔ Known tasks ∧ Acyclic (Depends tasks) := by
  constructor
  · intro hvalid
    have hknown : Known tasks := by
      unfold validateTasks at hvalid
      simp only at hvalid
      split at hvalid
      · cases hvalid
      · next hnone =>
        intro task htask dependency hdependency
        have hfound := List.findSome?_eq_none_iff.mp hnone task htask
        rw [Option.map_eq_none_iff, List.find?_eq_none] at hfound
        simpa using hfound dependency hdependency
    rw [validateTasks_of_known hknown, validateAcyclic_iff hdistinct hknown] at hvalid
    exact ⟨hknown, hvalid⟩
  · rintro ⟨hknown, hacyclic⟩
    rw [validateTasks_of_known hknown, validateAcyclic_iff hdistinct hknown]
    exact hacyclic

/-- The validator of version 1 accepts the graph of tasks whose dependencies are known and
have no cycle. -/
theorem validate_ofTasks_iff {tasks : List TaskDefinition}
    (hdistinct : (tasks.map TaskDefinition.key).Nodup) :
    V1.validate (DependencyGraph.ofTasks tasks) = .ok () ↔
      Known tasks ∧ Acyclic (Depends tasks) := by
  have hneeds := DependencyGraph.needs_ofTasks hdistinct
  have hknown : V1.validateUnknownDependencies (DependencyGraph.ofTasks tasks) = .ok () ↔
      Known tasks := by
    rw [V1.validateUnknownDependencies_iff]
    constructor
    · intro hall task htask dependency hdependency
      have hkey := (DependencyGraph.mem_taskKeys_ofTasks tasks task.key).mpr
        (List.mem_map_of_mem htask)
      have hdepends : (DependencyGraph.ofTasks tasks).Needs task.key dependency := by
        rw [hneeds]
        exact ⟨task, htask, rfl, hdependency⟩
      rw [← DependencyGraph.mem_taskKeys_ofTasks]
      exact hall task.key hkey dependency hdepends
    · intro hknown taskKey _ dependency hdependency
      have hdepends : Depends tasks taskKey dependency := by
        rw [← hneeds]
        exact hdependency
      rw [DependencyGraph.mem_taskKeys_ofTasks]
      exact (hknown.lists taskKey dependency hdepends).2
  have hacyclic : Known tasks →
      (V1.validateAcyclic (DependencyGraph.ofTasks tasks) = .ok () ↔
        Acyclic (Depends tasks)) := by
    intro hthis
    rw [← hneeds]
    apply V1.validateAcyclic_iff (DependencyGraph.simple_ofTasks hdistinct)
      (DependencyGraph.closed_ofTasks tasks)
    rw [hneeds]
    intro taskKey dependency hdepends
    rw [DependencyGraph.mem_taskKeys_ofTasks, DependencyGraph.mem_taskKeys_ofTasks]
    exact hthis.lists taskKey dependency hdepends
  unfold V1.validate
  constructor
  · intro hvalid
    obtain ⟨_, hunknown, hcycle⟩ := bind_eq_ok hvalid
    have hthis := hknown.mp hunknown
    exact ⟨hthis, (hacyclic hthis).mp hcycle⟩
  · rintro ⟨hthis, hcycle⟩
    rw [hknown.mpr hthis]
    exact (hacyclic hthis).mpr hcycle

theorem freezes_workflowMetadata (workflow : LegacyWorkflow) :
    ∃ metadata, Metadata.freeze (workflowMetadata workflow) = .ok metadata := by
  apply exists_freeze
  intro member hmember
  unfold workflowMetadata at hmember
  rcases List.mem_cons.mp hmember with rfl | hdescribed
  · exact ⟨_, rfl, by decide, freezes_str _⟩
  · split at hdescribed
    · cases hdescribed
    · rw [List.mem_singleton.mp hdescribed]
      exact ⟨_, rfl, by decide, freezes_str _⟩

/-- A workflow with valid tasks is defined, and only such a workflow. -/
theorem exists_defineWorkflow_iff {name version : Text} {failurePolicy : Policies.FailurePolicy}
    {metadata : List (PyKey × PyValue)} (hnonempty : definitionsOf declarations ≠ [])
    (hdistinct : ((definitionsOf declarations).map TaskDefinition.key).Nodup)
    (hmetadata : ∃ frozen, Metadata.freeze metadata = .ok frozen) :
    (∃ defined, defineWorkflow name.value version.value failurePolicy declarations metadata =
      .ok defined) ↔ validateTasks (definitionsOf declarations) = .ok () := by
  obtain ⟨frozen, hfrozen⟩ := hmetadata
  unfold defineWorkflow
  simp only [requireText_value, hfrozen]
  rw [dif_neg hnonempty, dif_neg (not_not.mpr hdistinct)]
  split
  · next error herror =>
    refine iff_of_false (by simp) ?_
    rw [herror]
    simp
  · next hvalid => exact iff_of_true ⟨_, rfl⟩ hvalid

/-- The migration returns exactly for the workflows that the validator accepts. -/
theorem exists_migrateWorkflow_iff (hmigratable : Migratable executorMap workflow) :
    (∃ migrated, migrateWorkflowDefinition executorMap workflow = .ok migrated) ↔
      V1.validate (V1.buildDependencyGraph workflow.definition) = .ok () := by
  obtain ⟨declarations, hdeclarations⟩ :=
    exists_collect fun task htask => exists_migrateTask (hmigratable.tasks task htask)
  have hkept := kept_of_collect hdeclarations
  have hkeys := keys_of_kept hkept
  have hdistinct : ((definitionsOf declarations).map TaskDefinition.key).Nodup := by
    rw [hkeys]
    exact workflow.definition.distinct
  have hnonempty : definitionsOf declarations ≠ [] := by
    intro hempty
    rw [hempty] at hkeys
    exact workflow.definition.nonempty (List.map_eq_nil_iff.mp hkeys.symm)
  rw [← ofTasks_eq hkept, validate_ofTasks_iff hdistinct, ← validateTasks_iff hdistinct,
    ← exists_defineWorkflow_iff hnonempty hdistinct (freezes_workflowMetadata workflow)]
  unfold migrateWorkflowDefinition
  rw [if_neg (not_not.mpr hmigratable.parameters), hdeclarations]
  exact exists_congr fun migrated => raising_eq_ok_iff

/-- What a migrated workflow holds. -/
theorem kept_of_migrateWorkflow {migrated : WorkflowDeclaration}
    (hmigrated : migrateWorkflowDefinition executorMap workflow = .ok migrated) :
    List.Forall₂ Keeps workflow.tasks migrated.tasks := by
  unfold migrateWorkflowDefinition at hmigrated
  split at hmigrated
  · cases hmigrated
  obtain ⟨declarations, hdeclarations, hmigrated⟩ := bind_eq_ok hmigrated
  have hdefined := raising_eq_ok_iff.mp hmigrated
  unfold defineWorkflow at hdefined
  simp only at hdefined
  split at hdefined
  · cases hdefined
  split at hdefined
  · cases hdefined
  split at hdefined
  · cases hdefined
  split at hdefined
  · cases hdefined
  split at hdefined
  · cases hdefined
  split at hdefined
  · cases hdefined
  cases hdefined
  exact kept_of_collect hdeclarations

end Workflows

end PyWorkflowKit.Compat
