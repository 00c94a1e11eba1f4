import PyWorkflowKit.Authoring.Builders

/-!
# Runs of the builder

A builder that has raised keeps a task whose known dependencies close a cycle, and only such
a task.  It reports a cycle exactly when the definition of the same tasks would.
-/

namespace PyWorkflowKit.Authoring

open Relation
open PyWorkflowKit.Core PyWorkflowKit.Domain PyWorkflowKit.Policies PyWorkflowKit.Planning

/-- The task that a call declares. -/
def BuilderCall.declares : BuilderCall → Option TaskDeclaration
  | task arguments => arguments.define.toOption
  | add declared => declared

/-- A task counts when its key is new. -/
def takeIn (tasks : List TaskDeclaration) (call : BuilderCall) : List TaskDeclaration :=
  match call.declares with
  | none => tasks
  | some task =>
      if task.key ∈ tasks.map fun other => other.key then tasks else tasks ++ [task]

/-- The tasks that calls declare, the first with each key. -/
def admitted (calls : List BuilderCall) : List TaskDeclaration := calls.foldl takeIn []

/-- The known dependencies of declared tasks. -/
def Links (tasks : List TaskDeclaration) : Text → Text → Prop :=
  DependsWithin (tasks.map TaskDeclaration.toTaskDefinition)

theorem Links.mono {tasks others : List TaskDeclaration} (hsubset : tasks ⊆ others)
    {taskKey dependency : Text} (hlinks : Links tasks taskKey dependency) :
    Links others taskKey dependency := by
  obtain ⟨⟨task, htask, hkey, hdependency⟩, hknown⟩ := hlinks
  have hmap := List.map_subset TaskDeclaration.toTaskDefinition hsubset
  exact ⟨⟨task, hmap htask, hkey, hdependency⟩, List.map_subset _ hmap hknown⟩

theorem acyclic_links_mono {tasks others : List TaskDeclaration} (hsubset : tasks ⊆ others)
    (hacyclic : Acyclic (Links others)) : Acyclic (Links tasks) :=
  fun node hcycle => hacyclic node (hcycle.lift id fun _ _ => Links.mono hsubset)

namespace Builder

theorem distinct_definitions (builder : Builder) :
    ((builder.tasks.map TaskDeclaration.toTaskDefinition).map TaskDefinition.key).Nodup := by
  rw [List.map_map]
  exact builder.listed ▸ builder.distinct

/-- A task that is taken in is reported when the builder is left with a cycle. -/
theorem take_eq (builder : Builder) {task : TaskDeclaration}
    (hnew : task.key ∉ builder.taskKeys) :
    (builder.take task hnew).1.tasks = builder.tasks ++ [task] ∧
      ((Acyclic (Links (builder.take task hnew).1.tasks) ∧
          (builder.take task hnew).2 = .ok task) ∨
        ¬ Acyclic (Links (builder.take task hnew).1.tasks) ∧
          ∃ cycle, (builder.take task hnew).2 = .error (.circularDependency cycle)) := by
  refine ⟨rfl, ?_⟩
  have hcheck := checkBuilderCycles_iff (builder.take task hnew).1.distinct_definitions
  cases hresult : checkBuilderCycles
      ((builder.take task hnew).1.tasks.map TaskDeclaration.toTaskDefinition) with
  | ok done =>
      refine Or.inl ⟨hcheck.mp hresult, ?_⟩
      exact congrArg (Except.map fun _ => task) hresult
  | error error =>
      refine Or.inr ⟨fun hacyclic => ?_, ?_⟩
      · rw [hcheck.mpr hacyclic] at hresult
        cases hresult
      · have herror := hresult
        unfold checkBuilderCycles at herror
        simp only at herror
        split at herror
        · next cycle _ =>
          cases herror
          exact ⟨cycle.map Text.value, congrArg (Except.map fun _ => task) hresult⟩
        · cases herror

/-- A call that declares no new task raises and leaves the builder as it is; another one takes
its task in. -/
theorem call_cases (builder : Builder) (call : BuilderCall) :
    ((builder.call call).1 = builder ∧ takeIn builder.tasks call = builder.tasks ∧
      ∃ error, (builder.call call).2 = .error error ∧ Plain error) ∨
    ∃ task, ∃ hnew : task.key ∉ builder.taskKeys,
      takeIn builder.tasks call = builder.tasks ++ [task] ∧
      builder.call call = builder.take task hnew := by
  have hcontains : ∀ key, Plain (containsKey key) := fun key => Or.inl ⟨_, rfl⟩
  have hnone : call.declares = none → takeIn builder.tasks call = builder.tasks := by
    intro hdeclares
    unfold takeIn
    rw [hdeclares]
  have hold : ∀ {task : TaskDeclaration}, call.declares = some task →
      task.key ∈ builder.taskKeys → takeIn builder.tasks call = builder.tasks := by
    intro task hdeclares hmem
    unfold takeIn
    rw [hdeclares]
    exact if_pos (builder.listed ▸ hmem)
  have hnew : ∀ {task : TaskDeclaration}, call.declares = some task →
      task.key ∉ builder.taskKeys → takeIn builder.tasks call = builder.tasks ++ [task] := by
    intro task hdeclares hmem
    unfold takeIn
    rw [hdeclares]
    exact if_neg (builder.listed ▸ hmem)
  cases call with
  | task arguments =>
      rw [Builder.call]
      split
      · next hmem =>
        refine Or.inl ⟨rfl, ?_, _, rfl, hcontains _⟩
        cases hdefine : arguments.define with
        | error error =>
            exact hnone (congrArg Except.toOption hdefine)
        | ok task =>
            have hdeclares : (BuilderCall.task arguments).declares = some task :=
              congrArg Except.toOption hdefine
            apply hold hdeclares
            obtain ⟨key, hkey, hvalue⟩ := List.mem_map.mp hmem
            rwa [Text.ext ((key_of_define hdefine).trans hvalue.symm)]
      · next hmem =>
        split
        · next error hdefine =>
          exact Or.inl ⟨rfl, hnone (congrArg Except.toOption hdefine), error, rfl,
            plain_of_define hdefine⟩
        · next task hdefine =>
          have hfresh : task.key ∉ builder.taskKeys := fun hkey =>
            hmem (key_of_define hdefine ▸ List.mem_map_of_mem hkey)
          exact Or.inr ⟨task, hfresh, hnew (congrArg Except.toOption hdefine) hfresh, rfl⟩
  | add declared =>
      cases declared with
      | none => exact Or.inl ⟨rfl, rfl, _, rfl, Or.inr ⟨_, rfl⟩⟩
      | some task =>
          rw [Builder.call]
          split
          · next hmem => exact Or.inl ⟨rfl, hold rfl hmem, _, rfl, hcontains _⟩
          · next hmem => exact Or.inr ⟨task, hmem, hnew rfl hmem, rfl⟩

/-- The builder holds the tasks that its calls declare, whether they raise or not. -/
theorem tasks_run (builder : Builder) (calls : List BuilderCall) :
    (builder.run calls).tasks = calls.foldl takeIn builder.tasks := by
  induction calls generalizing builder with
  | nil => rfl
  | cons call rest ih =>
      rw [List.foldl_cons, ← (show (builder.call call).1.tasks = takeIn builder.tasks call from ?_)]
      · exact ih (builder.call call).1
      · rcases builder.call_cases call with ⟨hsame, hadmit, -⟩ | ⟨task, hnew, hadmit, hcall⟩
        · rw [hsame, hadmit]
        · rw [hcall, hadmit]
          rfl

theorem subset_foldl_admit (tasks : List TaskDeclaration) (calls : List BuilderCall) :
    tasks ⊆ calls.foldl takeIn tasks := by
  induction calls generalizing tasks with
  | nil => exact List.Subset.refl _
  | cons call rest ih =>
      have hadmit : tasks ⊆ takeIn tasks call := by
        unfold takeIn
        split
        · exact List.Subset.refl _
        · split
          · exact List.Subset.refl _
          · exact List.subset_append_left _ _
      exact List.Subset.trans hadmit (ih _)

/-- A call of the run reports a cycle. -/
def Reports (builder : Builder) (calls : List BuilderCall) : Prop :=
  ∃ before call after cycle, calls = before ++ call :: after ∧
    ((builder.run before).call call).2 = .error (.circularDependency cycle)

/-- Some call reports a cycle exactly when the run leaves one. -/
theorem reports_iff (builder : Builder) (hstart : Acyclic (Links builder.tasks))
    (calls : List BuilderCall) :
    builder.Reports calls ↔ ¬ Acyclic (Links (builder.run calls).tasks) := by
  induction calls generalizing builder with
  | nil =>
      refine iff_of_false ?_ (not_not.mpr hstart)
      rintro ⟨before, call, after, cycle, hcalls, -⟩
      simp at hcalls
  | cons first rest ih =>
      have hlater : (builder.run (first :: rest)).tasks =
          ((builder.call first).1.run rest).tasks := rfl
      have hsubset : (builder.call first).1.tasks ⊆ (builder.run (first :: rest)).tasks := by
        rw [hlater, tasks_run]
        exact subset_foldl_admit _ _
      have hsplit : builder.Reports (first :: rest) ↔
          (∃ cycle, (builder.call first).2 = .error (.circularDependency cycle)) ∨
            (builder.call first).1.Reports rest := by
        constructor
        · rintro ⟨before, call, after, cycle, hcalls, hreport⟩
          cases before with
          | nil =>
              obtain ⟨rfl, rfl⟩ := List.cons.inj hcalls
              exact Or.inl ⟨cycle, hreport⟩
          | cons other before =>
              obtain ⟨rfl, rfl⟩ := List.cons.inj hcalls
              exact Or.inr ⟨before, call, after, cycle, rfl, hreport⟩
        · rintro (⟨cycle, hreport⟩ | ⟨before, call, after, cycle, rfl, hreport⟩)
          · exact ⟨[], first, rest, cycle, rfl, hreport⟩
          · exact ⟨first :: before, call, after, cycle, rfl, hreport⟩
      rw [hsplit, hlater]
      rcases builder.call_cases first with ⟨hsame, -, error, herror, hplain⟩ | ⟨task, hnew, -, hcall⟩
      · rw [hsame, ih builder hstart, or_iff_right]
        rintro ⟨cycle, hreport⟩
        exact hplain.not_circular cycle (Except.error.inj (herror.symm.trans hreport))
      · rcases (builder.take_eq hnew).2 with ⟨hacyclic, hok⟩ | ⟨hcyclic, hreport⟩
        · rw [← hcall] at hacyclic hok
          rw [ih _ hacyclic, or_iff_right]
          rintro ⟨cycle, hreport⟩
          rw [hok] at hreport
          cases hreport
        · rw [← hcall] at hcyclic hreport
          refine iff_of_true (Or.inl hreport) fun hacyclic => ?_
          exact hcyclic (acyclic_links_mono hsubset hacyclic)

/-- The builder is as if a call had not been made: its tasks and keys are, and so are later
calls and `build`. -/
structure Spared (before after : Builder) : Prop where
  tasks : after.tasks = before.tasks
  taskKeys : after.taskKeys = before.taskKeys
  later : ∀ calls, after.outcomes calls = before.outcomes calls ∧
    (after.run calls).build = (before.run calls).build

/-- A call that raises leaves no trace. -/
def Atomic (builder : Builder) (calls : List BuilderCall) : Prop :=
  ∀ before call after error, calls = before ++ call :: after →
    ((builder.run before).call call).2 = .error error →
      Spared (builder.run before) ((builder.run before).call call).1

/-- Where all dependencies are declared in the end, some call reports a cycle exactly when the
definition of the same tasks is rejected for one. -/
def Agrees (builder : Builder) (calls : List BuilderCall) : Prop :=
  Known ((admitted calls).map TaskDeclaration.toTaskDefinition) →
    ∀ (name version : Text) (failurePolicy : FailurePolicy),
      builder.Reports calls ↔ ∃ cycle, defineWorkflow name.value version.value failurePolicy
        (admitted calls) [] = .error (.circularDependency cycle)

end Builder

section Definitions

theorem validateTasks_of_known {tasks : List TaskDefinition} (hknown : Known tasks) :
    validateTasks tasks = validateAcyclic tasks := by
  have hnone : (tasks.findSome? fun task =>
      (task.dependencies.find? fun dependency =>
        dependency ∉ tasks.map TaskDefinition.key).map fun dependency =>
          "task " ++ PyError.quoted task.key.value ++ " depends on unknown task " ++
            PyError.quoted dependency.value) = none := by
    rw [List.findSome?_eq_none_iff]
    intro task htask
    rw [Option.map_eq_none_iff, List.find?_eq_none]
    intro dependency hdependency
    simpa using hknown task htask dependency hdependency
  unfold validateTasks
  simp only [hnone]

/-- The cycle check raises nothing but the cycle error. -/
theorem exists_circular_iff {tasks : List TaskDefinition} :
    (∃ cycle, validateAcyclic tasks = .error (.circularDependency cycle)) ↔
      validateAcyclic tasks ≠ .ok () := by
  constructor
  · rintro ⟨cycle, hcycle⟩ hok
    rw [hok] at hcycle
    cases hcycle
  · intro herror
    unfold validateAcyclic at herror ⊢
    simp only at herror ⊢
    split
    · next hall => exact absurd (if_pos hall) herror
    · exact ⟨_, rfl⟩

theorem links_of_known {tasks : List TaskDeclaration}
    (hknown : Known (tasks.map TaskDeclaration.toTaskDefinition)) :
    Links tasks = Depends (tasks.map TaskDeclaration.toTaskDefinition) := by
  funext taskKey dependency
  apply propext
  constructor
  · exact fun hlinks => hlinks.1
  · rintro ⟨task, htask, hkey, hdependency⟩
    exact ⟨⟨task, htask, hkey, hdependency⟩, hknown task htask dependency hdependency⟩

/-- The definition of declared tasks is rejected for a cycle exactly when there is one. -/
theorem defineWorkflow_circular_iff {tasks : List TaskDeclaration}
    (hdistinct : ((tasks.map TaskDeclaration.toTaskDefinition).map TaskDefinition.key).Nodup)
    (hknown : Known (tasks.map TaskDeclaration.toTaskDefinition)) (name version : Text)
    (failurePolicy : FailurePolicy) :
    (∃ cycle, defineWorkflow name.value version.value failurePolicy tasks [] =
      .error (.circularDependency cycle)) ↔ ¬ Acyclic (Links tasks) := by
  have hcheck := not_congr (validateAcyclic_iff hdistinct hknown)
  rw [links_of_known hknown, ← hcheck, ← Ne, ← exists_circular_iff,
    ← validateTasks_of_known hknown]
  have hfreeze : Metadata.freeze [] = .ok Metadata.empty := rfl
  unfold defineWorkflow
  simp only [requireText, Text.ofString?_value, hfreeze]
  split
  · next hempty =>
    rw [hempty]
    exact iff_of_false (by simp) (by rintro ⟨cycle, hcycle⟩; cases hcycle)
  · split
    · next error herror =>
      rw [herror]
      simp only [Except.error.injEq]
    · next hvalid =>
      refine iff_of_false (by simp) ?_
      rintro ⟨cycle, hcycle⟩
      rw [hvalid] at hcycle
      cases hcycle

end Definitions

namespace Builder

end Builder

section Orders

/-! `load` is declared before `extract`, which turns out to depend on it. -/

def ordersArguments (key dependency : String) : TaskArguments where
  key := key
  workload := some ⟨.localCallable (some "orders") (some key), .none, by simp⟩
  dependsOn := [.key dependency]
  retryPolicy := none
  timeoutPolicy := none
  triggerRule := .allSuccess
  inputs := []
  outputs := []
  metadata := none

def ordersCalls : List BuilderCall :=
  [.task (ordersArguments "load" "extract"), .task (ordersArguments "extract" "load")]

end Orders

end PyWorkflowKit.Authoring
