import PyWorkflowKit.Compat.Definitions
import PyWorkflowKit.Compat.Delays

/-!
# What the migration preserves

A migrated workflow has the plan of the workflow, and its tasks are retried alike.
-/

namespace PyWorkflowKit.Compat

open PyWorkflowKit.Core PyWorkflowKit.Domain PyWorkflowKit.Planning
open PyWorkflowKit.Authoring
open PyWorkflowKit.Policies (RetryDecision RetryEvaluation RetryJitterSource Uncertain refusal
  evaluate evaluateExactly)

section Plans

variable {task : LegacyTask} {declaration : TaskDeclaration}

/-- The planner reads all it needs of a registered workload. -/
theorem plannable_of_registered {task : TaskDefinition} {workload : RegisteredWorkload}
    (hworkload : task.workload = .registered workload) : Plannable task := by
  unfold Plannable executorRequirement integrationRequirements
  rw [hworkload]
  exact ⟨⟨_, rfl⟩, _, rfl⟩

/-- A dictionary has a canonical form if its values have one. -/
theorem exists_canonicalize_dict {members : List (PyKey × PyValue)}
    (hvalues : ∀ member ∈ members, ∃ json, canonicalize member.2 = .ok json) :
    ∃ json, canonicalize (.dict members) = .ok json := by
  have hentries : ∀ entry ∈ canonicalizeMembers members, ∃ canonical, entry.2 = .ok canonical := by
    induction members with
    | nil => simp [canonicalizeMembers]
    | cons first rest ih =>
        obtain ⟨hfirst, hrest⟩ := List.forall_mem_cons.mp hvalues
        obtain ⟨json, hjson⟩ := hfirst
        intro entry hentry
        rw [canonicalizeMembers] at hentry
        rcases List.mem_cons.mp hentry with rfl | hother
        · exact ⟨(first.1.text, json), by rw [hjson]; rfl⟩
        · exact ih hrest entry hother
  have hall : ∀ result ∈ (sortBy Prod.fst (canonicalizeMembers members)).map Prod.snd,
      ∃ canonical, result = .ok canonical := by
    intro result hresult
    obtain ⟨entry, hentry, rfl⟩ := List.mem_map.mp hresult
    exact hentries entry ((mem_sortBy _ _ _).mp hentry)
  obtain ⟨canonical, hcanonical⟩ := exists_gather_iff.mpr hall
  exact ⟨_, by rw [canonicalize, hcanonical]; rfl⟩

/-- A registered workload without parameters has a canonical payload. -/
theorem exists_canonicalWorkload {workload : RegisteredWorkload}
    (hworkload : declaration.workload = .registered workload)
    (hparameters : workload.parameters = []) :
    ∃ json, declaration.canonicalWorkload = .ok json := by
  unfold TaskDeclaration.canonicalWorkload TaskDeclaration.workloadFingerprintPayload
  rw [hworkload]
  apply exists_canonicalize_dict
  simp only [List.forall_mem_cons, hparameters, List.map_nil]
  refine ⟨⟨_, rfl⟩, ⟨_, rfl⟩, ⟨_, rfl⟩, ?_, ⟨_, rfl⟩, by simp⟩
  cases workload.executorKey <;> exact ⟨_, rfl⟩

/-- The planner accepts a migrated task. -/
theorem accepted_of_keeps (hkeeps : Keeps task declaration) (repr : FloatRepr) :
    WorkflowDeclaration.Accepted repr declaration := by
  obtain ⟨workload, hworkload, hparameters⟩ := hkeeps.workload
  obtain ⟨json, hjson⟩ := exists_canonicalWorkload hworkload hparameters
  refine ⟨plannable_of_registered hworkload, ?_⟩
  exact ⟨_, by rw [TaskDeclaration.fingerprintPayload, hjson]; rfl⟩

variable {executorMap : Option ExecutorMap} {workflow : LegacyWorkflow}
  {migrated : WorkflowDeclaration}

/-- A migrated workflow has the dependency graph of the workflow. -/
theorem ofWorkflow_eq (hkept : List.Forall₂ Keeps workflow.tasks migrated.tasks) :
    DependencyGraph.ofWorkflow migrated.definition =
      V1.buildDependencyGraph workflow.definition := by
  rw [DependencyGraph.ofWorkflow_eq, migrated.declared]
  exact ofTasks_eq hkept

/-- Both planners make the same of a workflow: the order of its tasks, the groups, and what
the tasks depend on. -/
structure PlansAlike (repr : FloatRepr) (workflow : LegacyWorkflow)
    (migrated : WorkflowDeclaration) : Prop where
  planned : ∃ groups planned,
    V1.buildGroups (V1.buildDependencyGraph workflow.definition) = .ok groups ∧
    V1.buildPlan (V1.buildDependencyGraph workflow.definition) = .ok groups.flatten ∧
    migrated.compile repr = .ok planned ∧
    planned.plan.groups = groups ∧ planned.plan.topologicalOrder = groups.flatten ∧
    ∀ entry ∈ planned.plan.tasks, ∃ task ∈ workflow.tasks,
      entry.key = task.taskId ∧ entry.dependencies = task.dependsOn

theorem plansAlike_of_kept (repr : FloatRepr)
    (hkept : List.Forall₂ Keeps workflow.tasks migrated.tasks) :
    PlansAlike repr workflow migrated := by
  have hgraph := ofWorkflow_eq hkept
  have hsorted : (V1.buildDependencyGraph workflow.definition).taskKeys.Pairwise
      fun left right => left.value ≤ right.value := sortBy_pairwise _ _
  have hgroups : V1.buildGroups (V1.buildDependencyGraph workflow.definition) =
      .ok (DependencyGraph.ofWorkflow migrated.definition).layers := by
    rw [← hgraph] at hsorted ⊢
    have hneeds := needs_of_valid migrated.definition
    apply V1.buildGroups_eq (simple_of_valid _) (closed_of_valid _) _ _ hsorted
    · rw [hneeds]
      exact lists_of_valid _
    · rw [hneeds]
      exact acyclic_of_valid _
  have haccepted : ∀ declaration ∈ migrated.tasks,
      WorkflowDeclaration.Accepted repr declaration := by
    intro declaration hdeclaration
    obtain ⟨task, -, hkeeps⟩ := exists_of_forall₂_right hkept hdeclaration
    exact accepted_of_keeps hkeeps repr
  obtain ⟨planned, hplanned⟩ := WorkflowDeclaration.exists_compile_iff.mpr haccepted
  obtain ⟨fingerprint, -, hplan, -⟩ := WorkflowDeclaration.compile_eq_ok hplanned
  have hcompiled := compiled_of_compile _ hplan
  refine ⟨_, planned, hgroups, ?_, hplanned, hcompiled.groups, ?_, ?_⟩
  · rw [V1.buildPlan_eq_map, hgroups]
    rfl
  · rw [← planned.plan.grouped, hcompiled.groups]
  · intro entry hentry
    have hmem : entry.task ∈ migrated.definition.tasks :=
      (plans_of_compile _ hplan).once.mem_iff.mp (List.mem_map_of_mem hentry)
    rw [migrated.declared] at hmem
    obtain ⟨declaration, hdeclaration, hsame⟩ := List.mem_map.mp hmem
    obtain ⟨task, htask, hkeeps⟩ := exists_of_forall₂_right hkept hdeclaration
    refine ⟨task, htask, ?_, ?_⟩
    · rw [TaskPlanEntry.key, ← hsame, hkeeps.key]
    · rw [TaskPlanEntry.dependencies, ← hsame, hkeeps.dependencies]

end Plans

section Retries

/-- The answer of the evaluator to which a decision of the engine corresponds. -/
def answerOf : Option ℚ → RetryDecision × ℚ
  | none => (.doNotRetry, 0)
  | some delay => (.retry, delay)

/-- The evaluation says what the engine decides. -/
def Answers (decision : Option V1.RetryDecision) (evaluated : RetryEvaluation) : Prop :=
  match decision with
  | none => evaluated.decision = .doNotRetry ∧ evaluated.delaySeconds = .finite 0
  | some retry => evaluated.decision = .retry ∧ evaluated.delaySeconds = retry.delaySeconds

/-- A failure of an allowed category, and the evidence that stands for it. -/
structure Corresponds (task : LegacyTask) (category : String) (failure : FailureEvidence) :
    Prop where
  allowed : task.retryPolicy.retryableErrorCategories ≠ [] →
    category ∈ task.retryPolicy.retryableErrorCategories
  mapped : mapLegacyRetryCategory category = .ok failure.category
  certain : failure.category ≠ .unknownOutcome
  known : failure.uncertainty = .known
  retryable : failure.retryability = .retryable

variable {task : LegacyTask} {declaration : TaskDeclaration} {category : String}
  {failure : FailureEvidence} {attemptNumber : Nat}

theorem Corresponds.not_uncertain (hcorresponds : Corresponds task category failure) :
    ¬ Uncertain failure := by
  rintro (hopen | hreconciliation | hunknown)
  · exact hopen hcorresponds.known
  · rw [hcorresponds.retryable] at hreconciliation
    cases hreconciliation
  · exact hcorresponds.certain hunknown

/-- The evaluator refuses a corresponding failure when its attempts are exhausted. -/
theorem refusal_of_keeps (hkeeps : Keeps task declaration)
    (hcorresponds : Corresponds task category failure) :
    refusal declaration.retryPolicy failure attemptNumber =
      if task.retryPolicy.maxAttempts ≤ attemptNumber then some (.lit "max_attempts_exhausted")
      else none := by
  obtain ⟨categories, hcategories, hpolicy⟩ := hkeeps.retryPolicy
  have hmapped := forall₂_of_collect hcategories
  have hallowed : categories ≠ [] → failure.category ∈ categories := by
    intro hsome
    have hlegacy : task.retryPolicy.retryableErrorCategories ≠ [] := by
      intro hnone
      rw [hnone] at hmapped
      cases hmapped
      exact hsome rfl
    obtain ⟨mapped, hmem, hthis⟩ :=
      exists_of_forall₂_right hmapped.flip (hcorresponds.allowed hlegacy)
    rw [Except.ok.inj (hcorresponds.mapped.symm.trans hthis)]
    exact hmem
  rw [hpolicy]
  unfold refusal migratedRetryPolicy
  have hallow : ¬ (categories ≠ [] ∧ failure.category ∉ categories) :=
    fun hrefused => hrefused.2 (hallowed hrefused.1)
  simp only [Nat.cast_le, hcorresponds.retryable, reduceCtorEq, if_false, if_neg hallow]

/-- Both versions compute one delay. -/
theorem exactDelay_of_keeps (hkeeps : Keeps task declaration) (hnumber : 1 ≤ attemptNumber) :
    Policies.exactDelay declaration.retryPolicy attemptNumber =
      V1.exactDelay task.retryPolicy attemptNumber := by
  obtain ⟨categories, -, hpolicy⟩ := hkeeps.retryPolicy
  have hpower : ((attemptNumber : ℤ) - 1).toNat = attemptNumber - 1 := by omega
  rw [hpolicy]
  unfold Policies.exactDelay V1.exactDelay migratedRetryPolicy
  simp only [hpower, Int.cast_natCast]

/-- A failed attempt is retried alike, whatever the source of jitter. -/
structure RetriesAlike (task : LegacyTask) (declaration : TaskDeclaration) : Prop where
  decided : ∀ (attemptNumber : Nat) (errorType message category : String)
    (failure : FailureEvidence) (draw : ℚ → ℚ) (elapsed : ℚ), 1 ≤ attemptNumber → 0 ≤ elapsed →
    Corresponds task category failure →
    evaluateExactly draw declaration.retryPolicy failure attemptNumber elapsed =
      answerOf (V1.decideExactly task.retryPolicy attemptNumber
        (.taskExecution errorType message category))
  refused : ∀ (attemptNumber : Nat) (errorType message category : String)
    (failure : FailureEvidence), Corresponds task category failure →
    (V1.decideRetry task.retryPolicy attemptNumber (.taskExecution errorType message category) =
        .ok none ↔
      refusal declaration.retryPolicy failure attemptNumber ≠ none)
  computed : ∀ {Call : Type} {Answer : Call → Type} {σ : Type}
    (fullJitter : RetryJitterSource Call Answer σ) (attemptNumber : Nat)
    (errorType message category : String) (failure : FailureEvidence) (elapsed : ℚ),
    1 ≤ attemptNumber → 0 ≤ elapsed → Corresponds task category failure →
    V1.DelayIsFloat task.retryPolicy attemptNumber →
    ∃ decision evaluated,
      V1.decideRetry task.retryPolicy attemptNumber (.taskExecution errorType message category) =
        .ok decision ∧
      evaluate fullJitter declaration.retryPolicy failure attemptNumber (.finite elapsed) =
        .ofExcept (.ok evaluated) ∧ Answers decision evaluated

theorem decideExactly_of_corresponds (errorType message : String)
    (hcorresponds : Corresponds task category failure) :
    V1.decideExactly task.retryPolicy attemptNumber (.taskExecution errorType message category) =
      if task.retryPolicy.maxAttempts ≤ attemptNumber then none
      else some (V1.exactDelay task.retryPolicy attemptNumber) := by
  have hallow : ¬ (task.retryPolicy.retryableErrorCategories ≠ [] ∧
      category ∉ task.retryPolicy.retryableErrorCategories) :=
    fun hrefused => hrefused.2 (hcorresponds.allowed hrefused.1)
  unfold V1.decideExactly
  simp only [if_neg hallow]

theorem evaluateExactly_of_keeps (hkeeps : Keeps task declaration) (errorType message : String)
    (draw : ℚ → ℚ) (elapsed : ℚ) (hnumber : 1 ≤ attemptNumber)
    (hcorresponds : Corresponds task category failure) :
    evaluateExactly draw declaration.retryPolicy failure attemptNumber elapsed =
      answerOf (V1.decideExactly task.retryPolicy attemptNumber
        (.taskExecution errorType message category)) := by
  obtain ⟨categories, -, hpolicy⟩ := hkeeps.retryPolicy
  have hjitter : declaration.retryPolicy.jitter = .none := by rw [hpolicy]; rfl
  have hbudget : declaration.retryPolicy.totalBudgetSeconds = none := by rw [hpolicy]; rfl
  rw [decideExactly_of_corresponds errorType message hcorresponds]
  unfold evaluateExactly
  rw [if_neg hcorresponds.not_uncertain, refusal_of_keeps hkeeps hcorresponds]
  by_cases hexhausted : task.retryPolicy.maxAttempts ≤ attemptNumber
  · rw [if_pos hexhausted, if_pos hexhausted]
    rfl
  · rw [if_neg hexhausted, if_neg hexhausted]
    simp only [hjitter, hbudget, exactDelay_of_keeps hkeeps hnumber]
    rfl

/-- The numbers of a migrated policy are those of the policy. -/
theorem delayIsFloat_of_keeps (hkeeps : Keeps task declaration) (hnumber : 1 ≤ attemptNumber)
    (hfloats : V1.DelayIsFloat task.retryPolicy attemptNumber) :
    Policies.DelayIsFloat declaration.retryPolicy attemptNumber := by
  obtain ⟨categories, -, hpolicy⟩ := hkeeps.retryPolicy
  have hpower : ((attemptNumber : ℤ) - 1).toNat = attemptNumber - 1 := by omega
  rw [hpolicy]
  refine ⟨hfloats.initial, hfloats.longest, fun hlinear => ?_, fun hexponential => ?_⟩
  · rw [Int.cast_natCast]
    exact hfloats.linear hlinear
  · rw [hpower]
    exact hfloats.exponential hexponential

/-- A task that keeps its policy is retried as before. -/
theorem retriesAlike_of_keeps (hkeeps : Keeps task declaration) :
    RetriesAlike task declaration where
  decided attemptNumber errorType message category failure draw elapsed hnumber _ hcorresponds :=
    evaluateExactly_of_keeps hkeeps errorType message draw elapsed hnumber hcorresponds
  refused attemptNumber errorType message category failure hcorresponds := by
    rw [V1.decideRetry_eq_none_iff, decideExactly_of_corresponds errorType message hcorresponds,
      refusal_of_keeps hkeeps hcorresponds]
    split <;> simp
  computed fullJitter attemptNumber errorType message category failure elapsed hnumber helapsed
      hcorresponds hfloats := by
    obtain ⟨categories, -, hpolicy⟩ := hkeeps.retryPolicy
    obtain ⟨decision, hdecided, hdecision⟩ := V1.decideRetry_eq_exact hnumber
      (.taskExecution errorType message category) hfloats
    obtain ⟨evaluated, hevaluated, hretry, hdelay⟩ := Policies.evaluate_eq_exact fullJitter id
      failure (by exact_mod_cast hnumber) helapsed (by rw [hpolicy]; rfl) (by rw [hpolicy]; rfl)
      (delayIsFloat_of_keeps hkeeps hnumber hfloats)
    refine ⟨decision, evaluated, hdecided, hevaluated, ?_⟩
    rw [evaluateExactly_of_keeps hkeeps errorType message id elapsed hnumber hcorresponds]
      at hretry hdelay
    unfold Answers
    cases decision with
    | none =>
        have hnone := Option.map_eq_none_iff.mp hdecision.symm
        rw [hnone] at hretry hdelay
        exact ⟨hretry, hdelay⟩
    | some retry =>
        obtain ⟨delay, hsome, hthis⟩ := Option.map_eq_some_iff.mp hdecision.symm
        rw [hsome] at hretry hdelay
        exact ⟨hretry, hdelay.trans hthis⟩

end Retries

section Migration

/-- What the migration of a workflow preserves. -/
structure PreservesMeaning (executorMap : Option ExecutorMap) (workflow : LegacyWorkflow) :
    Prop where
  returns : (∃ migrated, migrateWorkflowDefinition executorMap workflow = .ok migrated) ↔
    V1.validate (V1.buildDependencyGraph workflow.definition) = .ok ()
  plans : ∀ migrated, migrateWorkflowDefinition executorMap workflow = .ok migrated →
    ∀ repr, PlansAlike repr workflow migrated
  retries : ∀ migrated, migrateWorkflowDefinition executorMap workflow = .ok migrated →
    List.Forall₂ RetriesAlike workflow.tasks migrated.tasks

/-- One task that is retried after a second. -/
def legacyTask : LegacyTask where
  taskId := .lit "extract"
  handlerRef := some (.lit "orders.extract")
  dependsOn := []
  retryPolicy := {
    maxAttempts := 3
    backoffStrategy := .exponential
    delaySeconds := ⟨.float 1, by decide, .finite 1, rfl⟩
    maxDelaySeconds := none
    retryableErrorCategories := ["TRANSIENT"]
    positive := by decide }
  executorKey := .lit "local"
  timeoutSeconds := none
  timeoutMode := .none
  positiveTimeout := V1.TimeoutMode.positive_none
  timed := V1.TimeoutMode.timed_none
  distinct := List.nodup_nil
  irreflexive := List.not_mem_nil
  tags := ["nightly"]
  description := none

/-- The workflow of this task. -/
def legacyWorkflow : LegacyWorkflow where
  definition := {
    workflowId := .lit "orders"
    version := .lit "1"
    tasks := [legacyTask.toTaskDefinition]
    parameters := []
    nonempty := by simp
    distinct := by simp
    distinctParameters := by simp }
  tasks := [legacyTask]
  failurePolicy := .failFast
  description := none
  declared := rfl

theorem legacyTask_categories : ∀ category ∈ legacyTask.retryPolicy.retryableErrorCategories,
    ∃ mapped, mapLegacyRetryCategory category = .ok mapped := by
  intro category hcategory
  rw [List.mem_singleton.mp hcategory]
  exact ⟨.transient, by rfl⟩

theorem migratable_legacyWorkflow : Migratable none legacyWorkflow where
  parameters := rfl
  tasks task htask := by
    rw [List.mem_singleton.mp htask]
    exact ⟨by simp [legacyTask], ⟨("local", "inline"), by decide +kernel, by decide⟩,
      by simp [legacyTask], legacyTask_categories⟩

end Migration

end PyWorkflowKit.Compat
