import PyWorkflowKit.Planning.Fingerprints
import PyWorkflowKit.Planning.Planner

/-!
# Compiling full declarations

The planner takes the fingerprint of the definition into the plan.  Neither the plan nor its
fingerprint depends on the order in which the definition lists things.
-/

namespace PyWorkflowKit.Planning

open PyWorkflowKit.Core PyWorkflowKit.Domain PyWorkflowKit.Policies
open PyWorkflowKit.Authoring

namespace WorkflowDeclaration

/-- The declared task with a key. -/
def find? (workflow : WorkflowDeclaration) (taskKey : Text) : Option TaskDeclaration :=
  workflow.tasks.find? fun task => task.key = taskKey

theorem map_find? (workflow : WorkflowDeclaration) (taskKey : Text) :
    (workflow.find? taskKey).map TaskDeclaration.toTaskDefinition =
      workflow.definition.tasks.find? fun task => task.key = taskKey := by
  rw [workflow.declared, List.find?_map]
  rfl

theorem declared_order (workflow : WorkflowDeclaration) {fingerprint : Text}
    {plan : ExecutionPlan}
    (hplan : Planning.compile (fun _ => fingerprint) workflow.definition = .ok plan) :
    plan.tasks.map TaskPlanEntry.task =
      (plan.topologicalOrder.filterMap workflow.find?).map TaskDeclaration.toTaskDefinition := by
  rw [plan.ordered, List.filterMap_map, List.map_filterMap]
  symm
  rw [List.filterMap_eq_map_iff_forall_eq_some]
  intro entry hentry
  rw [← find?_of_compile hplan entry hentry, ← workflow.map_find?]
  rfl

/-- `WorkflowPlanner.compile`; the tasks are planned before the definition is
fingerprinted. -/
def compile (repr : FloatRepr) (workflow : WorkflowDeclaration) :
    Except PyError PlanDeclaration := do
  let graph := DependencyGraph.ofWorkflow workflow.definition
  let groups ← graph.topologicalLayers
  let _ ← planEntries workflow.definition groups
  let digest ← workflow.fingerprint repr
  let fingerprint ← requireText (.text digest) "definition_fingerprint must not be empty"
  match hplan : Planning.compile (fun _ => fingerprint) workflow.definition with
  | .error error => .error error
  | .ok plan =>
      .ok {
        plan := plan
        tasks := plan.topologicalOrder.filterMap workflow.find?
        declared := workflow.declared_order hplan }

variable {repr : FloatRepr} {workflow : WorkflowDeclaration}

/-- What a compiled declaration holds. -/
theorem compile_eq_ok {planned : PlanDeclaration}
    (hplanned : workflow.compile repr = .ok planned) :
    ∃ fingerprint : Text, workflow.fingerprint repr = .ok fingerprint.value ∧
      Planning.compile (fun _ => fingerprint) workflow.definition = .ok planned.plan ∧
      planned.tasks = planned.plan.topologicalOrder.filterMap workflow.find? := by
  unfold compile at hplanned
  obtain ⟨groups, hgroups, hplanned⟩ := bind_eq_ok hplanned
  obtain ⟨entries, hentries, hplanned⟩ := bind_eq_ok hplanned
  obtain ⟨digest, hdigest, hplanned⟩ := bind_eq_ok hplanned
  obtain ⟨fingerprint, hfingerprint, hplanned⟩ := bind_eq_ok hplanned
  have hvalue : fingerprint.value = digest := by
    unfold requireText at hfingerprint
    split at hfingerprint
    · cases hfingerprint
    · next value hattribute =>
      cases hattribute
      split at hfingerprint
      · cases hfingerprint
      · next text htext =>
        cases hfingerprint
        exact Text.value_of_ofString? htext
  split at hplanned
  · cases hplanned
  · next plan hplan =>
    cases hplanned
    exact ⟨fingerprint, hvalue ▸ hdigest, hplan, rfl⟩

/-- A definition has a fingerprint when all its tasks have a payload. -/
theorem exists_fingerprint_iff :
    (∃ fingerprint : Text, workflow.fingerprint repr = .ok fingerprint.value) ↔
      ∀ task ∈ workflow.tasks, ∃ payload, task.fingerprintPayload repr = .ok payload := by
  have hpayloads : (∀ task ∈ workflow.tasks, ∃ payload,
      task.fingerprintPayload repr = .ok payload) ↔
      ∃ payloads, gather ((sortBy (fun task => task.key.value) workflow.tasks).map
        (TaskDeclaration.fingerprintPayload repr)) = .ok payloads := by
    rw [exists_gather_iff]
    simp only [List.forall_mem_map, mem_sortBy]
  rw [hpayloads, fingerprint_eq_digest]
  unfold document
  constructor
  · rintro ⟨fingerprint, hfingerprint⟩
    obtain ⟨value, hvalue, -⟩ := map_eq_ok hfingerprint
    obtain ⟨payloads, hgather, -⟩ := map_eq_ok hvalue
    exact ⟨payloads, hgather⟩
  · rintro ⟨payloads, hgather⟩
    rw [hgather]
    exact ⟨⟨_, isBlank_canonicalJsonDigest _⟩, rfl⟩

/-- The planner accepts a task: what it reads of the workload and what the fingerprint covers
are there. -/
structure Accepted (repr : FloatRepr) (task : TaskDeclaration) : Prop where
  plannable : Plannable task.toTaskDefinition
  payload : ∃ payload, task.fingerprintPayload repr = .ok payload

/-- The planner returns a plan exactly when it accepts all tasks. -/
theorem exists_compile_iff :
    (∃ planned, workflow.compile repr = .ok planned) ↔
      ∀ task ∈ workflow.tasks, Accepted repr task := by
  have hplannable : (∀ task ∈ workflow.definition.tasks, Plannable task) ↔
      ∀ task ∈ workflow.tasks, Plannable task.toTaskDefinition := by
    rw [workflow.declared, List.forall_mem_map]
  constructor
  · rintro ⟨planned, hplanned⟩ task htask
    obtain ⟨fingerprint, hfingerprint, hplan, -⟩ := compile_eq_ok hplanned
    exact ⟨hplannable.mp ((Planning.exists_compile_iff _ _).mp ⟨_, hplan⟩) task htask,
      exists_fingerprint_iff.mp ⟨_, hfingerprint⟩ task htask⟩
  · intro haccepted
    have hall := hplannable.mpr fun task htask => (haccepted task htask).plannable
    obtain ⟨entries, hentries⟩ :=
      (exists_planEntries_iff (perm_layers workflow.definition)).mpr hall
    obtain ⟨fingerprint, hfingerprint⟩ :=
      exists_fingerprint_iff.mpr fun task htask => (haccepted task htask).payload
    obtain ⟨plan, hplan⟩ :=
      (Planning.exists_compile_iff workflow.definition fun _ => fingerprint).mpr hall
    have hrequire : requireText (.text fingerprint.value)
        "definition_fingerprint must not be empty" = .ok fingerprint := by
      simp only [requireText, Text.ofString?_value]
    unfold compile
    simp only [topologicalLayers_of_valid, bind, Except.bind, hentries, hfingerprint, hrequire]
    split
    · next error herror =>
      rw [hplan] at herror
      cases herror
    · exact ⟨_, rfl⟩

theorem distinct_keys (workflow : WorkflowDeclaration) :
    (workflow.tasks.map fun task => task.key).Nodup := by
  apply List.Nodup.of_map Text.value
  rw [List.map_map]
  exact workflow.distinct

end WorkflowDeclaration

section Rearranged

theorem executorRequirement_congr {left right : TaskDefinition} (hkey : left.key = right.key)
    (hworkload : left.workload = right.workload) :
    executorRequirement left = executorRequirement right := by
  unfold executorRequirement
  rw [hkey, hworkload]

theorem integrationRequirements_congr {left right : TaskDefinition}
    (hkey : left.key = right.key) (hworkload : left.workload = right.workload) :
    integrationRequirements left = integrationRequirements right := by
  unfold integrationRequirements
  rw [hkey, hworkload]

namespace WorkflowDeclaration.Rearranged

variable {repr : FloatRepr} {left right : WorkflowDeclaration}

/-- Tasks are found in another form under the same keys. -/
theorem find? (hrearranged : left.Rearranged right) (taskKey : Text) :
    Option.Rel TaskDeclaration.Rearranged (left.find? taskKey) (right.find? taskKey) :=
  find?_of_shuffled left.distinct_keys (fun _ _ hsame => hsame.key) hrearranged.tasks taskKey

/-- Both definitions have one dependency graph. -/
theorem ofWorkflow_eq (hrearranged : left.Rearranged right) :
    DependencyGraph.ofWorkflow left.definition =
      DependencyGraph.ofWorkflow right.definition := by
  unfold DependencyGraph.ofWorkflow
  congr 1
  · rw [left.declared, right.declared, List.map_map, List.map_map]
    obtain ⟨middle, hperm, hmiddle⟩ := hrearranged.tasks
    have hkeys : middle.map (fun task => task.key) = right.tasks.map fun task => task.key := by
      rw [← List.forall₂_eq_eq_eq, List.forall₂_map_left_iff, List.forall₂_map_right_iff]
      exact hmiddle.imp fun _ _ hsame => hsame.key
    have hpermuted : (left.tasks.map fun task => task.key).Perm
        (right.tasks.map fun task => task.key) := hkeys ▸ hperm.map _
    exact sortBy_congr_perm Text.value hpermuted
      (left.distinct_keys.map fun _ _ => Text.ext)
  · funext taskKey
    have hfound := hrearranged.find? taskKey
    rw [← left.map_find?, ← right.map_find?]
    revert hfound
    cases left.find? taskKey with
    | none =>
        cases right.find? taskKey with
        | none => exact fun _ => rfl
        | some other =>
            intro hfound
            cases hfound
    | some task =>
        cases right.find? taskKey with
        | none =>
            intro hfound
            cases hfound
        | some other =>
            intro hfound
            cases hfound with
            | some hsame =>
                exact sortBy_congr_perm Text.value hsame.dependencies
                  (task.distinct.map fun _ _ => Text.ext)

/-- An entry for a key has the same slot in both plans. -/
theorem slot_eq (hrearranged : left.Rearranged right) {position groupIndex : Nat}
    {taskKey : Text} {entry other : TaskPlanEntry}
    (hentry : planEntry left.definition position groupIndex taskKey = .ok entry)
    (hother : planEntry right.definition position groupIndex taskKey = .ok other) :
    (entry.slot, entry.key) = (other.slot, other.key) := by
  have hkey := (planEntry_eq_ok hentry).1.trans (planEntry_eq_ok hother).1.symm
  obtain ⟨task, requirement, integrations, htask, hrequirement, hintegrations, rfl⟩ :=
    planEntry_ok_iff.mp hentry
  obtain ⟨task', requirement', integrations', htask', hrequirement', hintegrations', rfl⟩ :=
    planEntry_ok_iff.mp hother
  have hfound := hrearranged.find? taskKey
  rw [← left.map_find?, Option.map_eq_some_iff] at htask
  rw [← right.map_find?, Option.map_eq_some_iff] at htask'
  obtain ⟨declaration, hdeclaration, rfl⟩ := htask
  obtain ⟨declaration', hdeclaration', rfl⟩ := htask'
  rw [hdeclaration, hdeclaration'] at hfound
  cases hfound with
  | some hsame =>
      rw [executorRequirement_congr hsame.key hsame.workload, hrequirement'] at hrequirement
      rw [integrationRequirements_congr hsame.key hsame.workload, hintegrations']
        at hintegrations
      cases hrequirement
      cases hintegrations
      exact Prod.ext rfl hkey

/-- The planner accepts both or neither. -/
theorem accepted (hrearranged : left.Rearranged right)
    (haccepted : ∀ task ∈ left.tasks, Accepted repr task) :
    ∀ task ∈ right.tasks, Accepted repr task := by
  intro task htask
  obtain ⟨other, hother, hsame⟩ := hrearranged.tasks.exists_left htask
  obtain ⟨⟨hrequirement, hintegrations⟩, hpayload⟩ := haccepted other hother
  rw [executorRequirement_congr hsame.key hsame.workload] at hrequirement
  rw [integrationRequirements_congr hsame.key hsame.workload] at hintegrations
  rw [hsame.payload_eq repr] at hpayload
  exact ⟨⟨hrequirement, hintegrations⟩, hpayload⟩

/-- The entries of both plans agree but for the form of their tasks. -/
theorem slots_eq (hrearranged : left.Rearranged right) {groups : List (List Text)}
    {entries others : List TaskPlanEntry}
    (hentries : planEntries left.definition groups = .ok entries)
    (hothers : planEntries right.definition groups = .ok others) :
    entries.map (fun entry => (entry.slot, entry.key)) =
      others.map fun entry => (entry.slot, entry.key) := by
  have hfirst := forall₂_of_gather hentries
  have hsecond := forall₂_of_gather hothers
  rw [List.forall₂_map_left_iff] at hfirst hsecond
  clear hentries hothers
  generalize (groups.zipIdx.flatMap fun group =>
    group.1.map fun taskKey => (taskKey, group.2)).zipIdx = places at hfirst hsecond
  induction hfirst generalizing others with
  | nil =>
      cases hsecond
      rfl
  | cons hhead _ ih =>
      cases hsecond with
      | cons hother hrest =>
          rw [List.map_cons, List.map_cons, hrearranged.slot_eq hhead hother, ih hrest]

/-- A plan does not depend on the order of declaration. -/
theorem compile (hrearranged : left.Rearranged right) {planned : PlanDeclaration}
    (hplanned : left.compile repr = .ok planned) :
    ∃ other, right.compile repr = .ok other ∧ planned.Rearranged other := by
  obtain ⟨other, hother⟩ := exists_compile_iff.mpr
    (hrearranged.accepted (exists_compile_iff.mp ⟨planned, hplanned⟩))
  refine ⟨other, hother, ?_⟩
  obtain ⟨fingerprint, hfingerprint, hplan, htasks⟩ := compile_eq_ok hplanned
  obtain ⟨fingerprint', hfingerprint', hplan', htasks'⟩ := compile_eq_ok hother
  obtain rfl : fingerprint = fingerprint' := by
    rw [hrearranged.fingerprint_eq repr, hfingerprint'] at hfingerprint
    exact (Text.ext (Except.ok.inj hfingerprint)).symm
  have hcompiled := compiled_of_compile _ hplan
  have hcompiled' := compiled_of_compile _ hplan'
  have hgroups : planned.plan.groups = other.plan.groups := by
    rw [hcompiled.groups, hcompiled'.groups, hrearranged.ofWorkflow_eq]
  have hslots := hrearranged.slots_eq hcompiled.entries (hgroups ▸ hcompiled'.entries)
  have horder : planned.plan.topologicalOrder = other.plan.topologicalOrder := by
    rw [← planned.plan.grouped, ← other.plan.grouped, hgroups]
  have hlength : left.definition.tasks.length = right.definition.tasks.length := by
    obtain ⟨middle, hperm, hmiddle⟩ := hrearranged.tasks
    rw [left.declared, right.declared, List.length_map, List.length_map, hperm.length_eq,
      hmiddle.length_eq]
  -- what a plan collects from its entries depends on their slots and keys only
  have hcollected {α : Type} (collect : List (Slot × Text) → α) :
      collect (planned.plan.tasks.map fun entry => (entry.slot, entry.key)) =
        collect (other.plan.tasks.map fun entry => (entry.slot, entry.key)) := by rw [hslots]
  exact {
    slots := by
      have hfirst := hcollected (List.map Prod.fst)
      rwa [List.map_map, List.map_map] at hfirst
    tasks := by
      rw [htasks, htasks', horder]
      apply List.rel_filterMap (R := Eq)
      · rintro taskKey _ rfl
        exact hrearranged.find? taskKey
      · exact List.forall₂_refl _
    workflowName := by rw [hcompiled.workflowName, hcompiled'.workflowName, hrearranged.name]
    workflowVersion := by
      rw [hcompiled.workflowVersion, hcompiled'.workflowVersion, hrearranged.version]
    definitionFingerprint := by
      rw [hcompiled.definitionFingerprint, hcompiled'.definitionFingerprint]
    failurePolicy := hcompiled.failurePolicy.trans
      (hrearranged.failurePolicy.trans hcompiled'.failurePolicy.symm)
    groups := hgroups
    requiredCapabilities := by
      have hcapabilities := hcollected (List.flatMap fun place =>
        ["executor:" ++ place.1.executorRequirement.executorKey.value,
          "workload:" ++ place.1.executorRequirement.workloadKind.value])
      rw [List.flatMap_map, List.flatMap_map] at hcapabilities
      rw [hcompiled.requiredCapabilities, hcompiled'.requiredCapabilities]
      exact congrArg sortedSet hcapabilities
    requiredIntegrations := by
      have hintegrations := hcollected (List.flatMap fun place => place.1.requiredIntegrations)
      rw [List.flatMap_map, List.flatMap_map] at hintegrations
      rw [hcompiled.requiredIntegrations, hcompiled'.requiredIntegrations]
      exact congrArg sortedSet hintegrations
    diagnostics := by
      have hwarnings := hcollected fun places =>
        (places.filter fun place => !place.1.executorRequirement.portable).map fun place =>
          portabilityDiagnostic place.2
      simp only [List.filter_map, List.map_map] at hwarnings
      rw [hcompiled.diagnostics, hcompiled'.diagnostics, hlength, hrearranged.ofWorkflow_eq]
      exact congrArg _ hwarnings }

end WorkflowDeclaration.Rearranged

end Rearranged

section Correctness

open Session

/-- What the planner makes of definitions, in any order of declaration, and which dependencies
it and the cycle check refuse. -/
structure PlansByDepth (repr : FloatRepr) : Prop where
  returns : ∀ workflow : WorkflowDeclaration, (∃ planned, workflow.compile repr = .ok planned) ↔
    ∀ task ∈ workflow.tasks, WorkflowDeclaration.Accepted repr task
  plans : ∀ (workflow : WorkflowDeclaration) planned, workflow.compile repr = .ok planned →
    Plans workflow.definition planned.plan
  unchanged : ∀ (left right : WorkflowDeclaration) planned, left.Rearranged right →
    left.compile repr = .ok planned → ∃ other, right.compile repr = .ok other ∧
      other.plan.topologicalOrder = planned.plan.topologicalOrder ∧
      other.plan.groups = planned.plan.groups ∧
      other.plan.tasks.map TaskPlanEntry.position =
        planned.plan.tasks.map TaskPlanEntry.position ∧
      other.fingerprint repr = planned.fingerprint repr
  refuses : ∀ tasks : List TaskDefinition, (tasks.map TaskDefinition.key).Nodup → Known tasks →
    (validateAcyclic tasks ≠ .ok () ↔
      ∀ groups, (DependencyGraph.ofTasks tasks).topologicalLayers ≠ .ok groups) ∧
    (validateAcyclic tasks ≠ .ok () ↔ ¬ Acyclic (Depends tasks))

/-- A definition whose only task declares an empty executor key. -/
def unroutedWorkflow : WorkflowDefinition where
  name := .lit "orders"
  tasks := [{ extractTask with workload := .descriptor {
    workloadKind := "registered"
    portability := .portable
    payloadKind := some (some (.text "registered"))
    executorKey := some (.text "")
    integrationKey := none } }]
  version := .lit "1"
  failurePolicy := .failFast
  nonempty := by simp
  distinct := by decide
  valid := rfl

/-- Fingerprints identify what they cover, where the digests are told apart. -/
structure FingerprintsIdentify (repr : FloatRepr) : Prop where
  definitions_unchanged : ∀ left right : WorkflowDeclaration, left.Rearranged right →
    left.fingerprint repr = right.fingerprint repr
  plans_unchanged : ∀ left right : PlanDeclaration, left.Rearranged right →
    left.fingerprint repr = right.fingerprint repr
  compiled_unchanged : ∀ (left right : WorkflowDeclaration) planned, left.Rearranged right →
    left.compile repr = .ok planned → ∃ other, right.compile repr = .ok other ∧
      planned.fingerprint repr = other.fingerprint repr
  definitions_separated : ∀ (left right : WorkflowDeclaration) fingerprint,
    left.fingerprint repr = .ok fingerprint → right.fingerprint repr = .ok fingerprint →
    (∀ first second, left.document repr = .ok first → right.document repr = .ok second →
      ToldApart first second) → left.Same right
  plans_separated : ∀ (left right : PlanDeclaration) fingerprint,
    left.fingerprint repr = .ok fingerprint → right.fingerprint repr = .ok fingerprint →
    (∀ first second, left.document repr = .ok first → right.document repr = .ok second →
      ToldApart first second) → left.Same right

end Correctness

end PyWorkflowKit.Planning
