import PyWorkflowKit.Planning.Declarations

/-!
# What fingerprints identify

A fingerprint does not depend on the order in which tasks, dependencies, inputs, outputs and
members of metadata are declared, and it tells declarations apart that differ otherwise.
-/

namespace PyWorkflowKit.Planning

open PyWorkflowKit.Core PyWorkflowKit.Domain PyWorkflowKit.Policies
open PyWorkflowKit.Authoring

section Rearranging

/-- The same JSON with the members of its mappings in another order. -/
inductive Reordered : JsonValue → JsonValue → Prop
  | same (value : JsonValue) : Reordered value value
  | members {left right : List (String × JsonValue)} :
      left.Perm right → Reordered (.mapping left) (.mapping right)
  | member (before after : List (String × JsonValue)) (key : String) {left right : JsonValue} :
      Reordered left right →
        Reordered (.mapping (before ++ (key, left) :: after))
          (.mapping (before ++ (key, right) :: after))
  | item (before after : List JsonValue) {left right : JsonValue} :
      Reordered left right →
        Reordered (.tuple (before ++ left :: after)) (.tuple (before ++ right :: after))
  | trans {left middle right : JsonValue} :
      Reordered left middle → Reordered middle right → Reordered left right

def Metadata.Reordered (left right : Metadata) : Prop :=
  Planning.Reordered (.mapping left.members) (.mapping right.members)

structure InputDeclaration.Rearranged (left right : InputDeclaration) : Prop where
  name : left.name = right.name
  required : left.required = right.required
  portable : left.portable = right.portable
  metadata : left.metadata.Reordered right.metadata

structure OutputDeclaration.Rearranged (left right : OutputDeclaration) : Prop where
  name : left.name = right.name
  portable : left.portable = right.portable
  metadata : left.metadata.Reordered right.metadata

/-- The same task, declared in another order. -/
structure TaskDeclaration.Rearranged (left right : TaskDeclaration) : Prop where
  key : left.key = right.key
  workload : left.workload = right.workload
  descriptorPayload : left.descriptorPayload = right.descriptorPayload
  dependencies : left.dependencies.Perm right.dependencies
  retryPolicy : left.retryPolicy = right.retryPolicy
  timeoutPolicy : left.timeoutPolicy = right.timeoutPolicy
  triggerRule : left.triggerRule = right.triggerRule
  isDeterministic : left.isDeterministic = right.isDeterministic
  inputs : Shuffled InputDeclaration.Rearranged left.inputs right.inputs
  outputs : Shuffled OutputDeclaration.Rearranged left.outputs right.outputs
  metadata : left.metadata.Reordered right.metadata

/-- The same workflow, declared in another order. -/
structure WorkflowDeclaration.Rearranged (left right : WorkflowDeclaration) : Prop where
  name : left.definition.name = right.definition.name
  version : left.definition.version = right.definition.version
  failurePolicy : left.definition.failurePolicy = right.definition.failurePolicy
  tasks : Shuffled TaskDeclaration.Rearranged left.tasks right.tasks
  metadata : left.metadata.Reordered right.metadata

/-- Where a plan puts a task and what it requires for it. -/
structure Slot where
  position : Nat
  groupIndex : Nat
  executorRequirement : ExecutorRequirement
  requiredIntegrations : List String

def TaskPlanEntry.slot (entry : TaskPlanEntry) : Slot :=
  ⟨entry.position, entry.groupIndex, entry.executorRequirement, entry.requiredIntegrations⟩

/-- The same plan, with its tasks declared in another order. -/
structure PlanDeclaration.Rearranged (left right : PlanDeclaration) : Prop where
  slots : left.plan.tasks.map TaskPlanEntry.slot = right.plan.tasks.map TaskPlanEntry.slot
  tasks : List.Forall₂ TaskDeclaration.Rearranged left.tasks right.tasks
  workflowName : left.plan.workflowName = right.plan.workflowName
  workflowVersion : left.plan.workflowVersion = right.plan.workflowVersion
  definitionFingerprint : left.plan.definitionFingerprint = right.plan.definitionFingerprint
  failurePolicy : left.plan.failurePolicy = right.plan.failurePolicy
  groups : left.plan.groups = right.plan.groups
  requiredCapabilities : left.plan.requiredCapabilities = right.plan.requiredCapabilities
  requiredIntegrations : left.plan.requiredIntegrations = right.plan.requiredIntegrations
  diagnostics : left.plan.diagnostics = right.plan.diagnostics

theorem thawMembers_eq (members : List (String × JsonValue)) :
    thawMembers members = members.map fun member => (member.1, thawJsonValue member.2) := by
  induction members with
  | nil => rfl
  | cons member rest ih =>
      obtain ⟨key, value⟩ := member
      rw [thawMembers, ih]
      rfl

theorem thawItems_eq (items : List JsonValue) : thawItems items = items.map thawJsonValue := by
  induction items with
  | nil => rfl
  | cons item rest ih =>
      rw [thawItems, ih]
      rfl

/-- Thawing forgets the order of members. -/
theorem thaw_of_reordered {left right : JsonValue} (hreordered : Reordered left right)
    (hfrozen : Frozen left) : Frozen right ∧ thawJsonValue left = thawJsonValue right := by
  induction hreordered with
  | same value => exact ⟨hfrozen, rfl⟩
  | @members left right hperm =>
      obtain ⟨hkeys, hvalues⟩ := hfrozen
      rw [frozenMembers_iff] at hvalues
      refine ⟨⟨(hperm.map Prod.fst).nodup_iff.mp hkeys, (frozenMembers_iff _).mpr ?_⟩, ?_⟩
      · exact fun member hmember => hvalues member (hperm.mem_iff.mpr hmember)
      · rw [thawJsonValue, thawJsonValue, thawMembers_eq, thawMembers_eq]
        congr 1
        apply sortBy_congr_perm Prod.fst (hperm.map _)
        rw [List.map_map]
        exact hkeys
  | member before after key _ ih =>
      obtain ⟨hkeys, hvalues⟩ := hfrozen
      rw [frozenMembers_iff] at hvalues
      have hmember := hvalues _ (List.mem_append_right _ List.mem_cons_self)
      obtain ⟨hright, hthaw⟩ := ih hmember.2
      refine ⟨⟨by simpa using hkeys, (frozenMembers_iff _).mpr ?_⟩, ?_⟩
      · intro member hmem
        rcases List.mem_append.mp hmem with hbefore | hafter
        · exact hvalues member (List.mem_append_left _ hbefore)
        · rcases List.mem_cons.mp hafter with rfl | hrest
          · exact ⟨hmember.1, hright⟩
          · exact hvalues member (List.mem_append_right _ (List.mem_cons_of_mem _ hrest))
      · simp only [thawJsonValue, thawMembers_eq, List.map_append, List.map_cons, hthaw]
  | item before after _ ih =>
      rw [Frozen, frozenItems_iff] at hfrozen
      obtain ⟨hright, hthaw⟩ := ih (hfrozen _ (List.mem_append_right _ List.mem_cons_self))
      refine ⟨(frozenItems_iff _).mpr fun item hmem => ?_, ?_⟩
      · rcases List.mem_append.mp hmem with hbefore | hafter
        · exact hfrozen item (List.mem_append_left _ hbefore)
        · rcases List.mem_cons.mp hafter with rfl | hrest
          · exact hright
          · exact hfrozen item (List.mem_append_right _ (List.mem_cons_of_mem _ hrest))
      · simp only [thawJsonValue, thawItems_eq, List.map_append, List.map_cons, hthaw]
  | trans _ _ ihfirst ihsecond =>
      obtain ⟨hmiddle, hfirst⟩ := ihfirst hfrozen
      obtain ⟨hright, hsecond⟩ := ihsecond hmiddle
      exact ⟨hright, hfirst.trans hsecond⟩

theorem Metadata.Reordered.payload_eq {left right : Metadata}
    (hreordered : left.Reordered right) : left.payload = right.payload :=
  (thaw_of_reordered hreordered left.frozen).2

theorem InputDeclaration.Rearranged.payload_eq {left right : InputDeclaration}
    (hrearranged : left.Rearranged right) :
    left.fingerprintPayload = right.fingerprintPayload := by
  unfold InputDeclaration.fingerprintPayload
  rw [hrearranged.name, hrearranged.required, hrearranged.portable,
    hrearranged.metadata.payload_eq]

theorem OutputDeclaration.Rearranged.payload_eq {left right : OutputDeclaration}
    (hrearranged : left.Rearranged right) :
    left.fingerprintPayload = right.fingerprintPayload := by
  unfold OutputDeclaration.fingerprintPayload
  rw [hrearranged.name, hrearranged.portable, hrearranged.metadata.payload_eq]

theorem TaskDeclaration.Rearranged.canonicalWorkload_eq {left right : TaskDeclaration}
    (hrearranged : left.Rearranged right) :
    left.canonicalWorkload = right.canonicalWorkload := by
  unfold TaskDeclaration.canonicalWorkload TaskDeclaration.workloadFingerprintPayload
  rw [hrearranged.workload, hrearranged.descriptorPayload]

theorem TaskDeclaration.Rearranged.payload_eq {left right : TaskDeclaration}
    (hrearranged : left.Rearranged right) (repr : FloatRepr) :
    left.fingerprintPayload repr = right.fingerprintPayload repr := by
  have hdependencies : sortBy id (left.dependencies.map Text.value) =
      sortBy id (right.dependencies.map Text.value) := by
    apply sortBy_congr_perm id (hrearranged.dependencies.map _)
    rw [List.map_id]
    exact left.distinct.map fun _ _ => Text.ext
  have hinputs : (sortBy (fun input => input.name.value) left.inputs).map
      InputDeclaration.fingerprintPayload = (sortBy (fun input => input.name.value)
        right.inputs).map InputDeclaration.fingerprintPayload :=
    map_sortBy_of_shuffled left.inputsDistinct
      (fun _ _ hsame => ⟨by rw [hsame.name], hsame.payload_eq⟩) hrearranged.inputs
  have houtputs : (sortBy (fun output => output.name.value) left.outputs).map
      OutputDeclaration.fingerprintPayload = (sortBy (fun output => output.name.value)
        right.outputs).map OutputDeclaration.fingerprintPayload :=
    map_sortBy_of_shuffled left.outputsDistinct
      (fun _ _ hsame => ⟨by rw [hsame.name], hsame.payload_eq⟩) hrearranged.outputs
  unfold TaskDeclaration.fingerprintPayload taskPayload
  rw [hrearranged.canonicalWorkload_eq, hrearranged.key, hdependencies,
    hrearranged.retryPolicy, hrearranged.timeoutPolicy, hrearranged.triggerRule,
    hrearranged.isDeterministic, hinputs, houtputs, hrearranged.metadata.payload_eq]

theorem WorkflowDeclaration.sorted_payloads (repr : FloatRepr) (workflow : WorkflowDeclaration) :
    (sortBy (fun payload => payload.1.value) (workflow.payloads repr)).map Prod.snd =
      (sortBy (fun task => task.key.value) workflow.tasks).map
        (TaskDeclaration.fingerprintPayload repr) := by
  unfold WorkflowDeclaration.payloads
  rw [sortBy_map, List.map_map]
  rfl

/-- The order of declaration does not enter the fingerprint of a definition. -/
theorem WorkflowDeclaration.Rearranged.fingerprint_eq {left right : WorkflowDeclaration}
    (hrearranged : left.Rearranged right) (repr : FloatRepr) :
    left.fingerprint repr = right.fingerprint repr := by
  have hheader : left.header = right.header := by
    unfold WorkflowDeclaration.header
    rw [hrearranged.name, hrearranged.version, hrearranged.failurePolicy,
      hrearranged.metadata.payload_eq]
  unfold WorkflowDeclaration.fingerprint Header.fingerprint
  rw [sorted_payloads, sorted_payloads, hheader, map_sortBy_of_shuffled left.distinct
    (fun _ _ hsame => ⟨by rw [hsame.key], hsame.payload_eq repr⟩) hrearranged.tasks]

/-- The payload of an entry, from its slot and the payload of its task. -/
def Slot.payload (slot : Slot) (task : JsonValue) : JsonValue :=
  .mapping [
    ("task", task),
    ("position", .int slot.position),
    ("group_index", .int slot.groupIndex),
    ("executor_requirement", slot.executorRequirement.payload),
    ("required_integrations", .tuple (slot.requiredIntegrations.map .str))]

namespace PlanDeclaration

theorem keys_eq (planned : PlanDeclaration) :
    planned.tasks.map (fun task => task.key) = planned.plan.topologicalOrder := by
  rw [planned.plan.ordered]
  have hkeys := congrArg (List.map TaskDefinition.key) planned.declared
  rw [List.map_map, List.map_map] at hkeys
  exact hkeys.symm

/-- The payloads of the entries of a plan, slot by slot. -/
theorem entryPayloads_eq (planned : PlanDeclaration) (repr : FloatRepr) :
    (planned.plan.tasks.map fun entry =>
      (((planned.payloads repr).lookup entry.key).getD
        (.error (.keyError entry.key.value))).map entry.payload) =
      List.zipWith (fun slot payload => payload.map (Slot.payload slot))
        (planned.plan.tasks.map TaskPlanEntry.slot)
        (planned.tasks.map (TaskDeclaration.fingerprintPayload repr)) := by
  have hdistinct : (planned.tasks.map fun task => task.key).Nodup := by
    rw [planned.keys_eq, planned.plan.ordered]
    exact planned.plan.distinct
  have hlookup : ∀ task ∈ planned.tasks,
      (planned.payloads repr).lookup task.key = some (task.fingerprintPayload repr) :=
    fun task htask => lookup_map_of_mem (TaskDeclaration.fingerprintPayload repr) hdistinct htask
  have haligned : List.Forall₂ (fun (entry : TaskPlanEntry) (task : TaskDeclaration) =>
      entry.task = task.toTaskDefinition) planned.plan.tasks planned.tasks := by
    have hdeclared := planned.declared
    rwa [← List.forall₂_eq_eq_eq, List.forall₂_map_left_iff, List.forall₂_map_right_iff]
      at hdeclared
  generalize planned.payloads repr = payloads at hlookup ⊢
  generalize planned.plan.tasks = entries at haligned ⊢
  generalize planned.tasks = tasks at haligned hlookup hdistinct ⊢
  induction haligned with
  | nil => rfl
  | @cons entry task entries tasks hhead _ ih =>
      have hkey : entry.key = task.key := congrArg TaskDefinition.key hhead
      rw [List.map_cons, List.map_cons, List.map_cons, List.zipWith_cons_cons, hkey,
        hlookup task List.mem_cons_self]
      congr 1
      exact ih (fun other hother => hlookup other (List.mem_cons_of_mem _ hother))
        (List.nodup_cons.mp hdistinct).2

/-- The order of declaration does not enter the fingerprint of a plan. -/
theorem Rearranged.fingerprint_eq {left right : PlanDeclaration}
    (hrearranged : left.Rearranged right) (repr : FloatRepr) :
    left.fingerprint repr = right.fingerprint repr := by
  have hpayloads : left.tasks.map (TaskDeclaration.fingerprintPayload repr) =
      right.tasks.map (TaskDeclaration.fingerprintPayload repr) := by
    rw [← List.forall₂_eq_eq_eq, List.forall₂_map_left_iff, List.forall₂_map_right_iff]
    exact hrearranged.tasks.imp fun _ _ hsame => hsame.payload_eq repr
  have horder : left.plan.topologicalOrder = right.plan.topologicalOrder := by
    rw [← left.keys_eq, ← right.keys_eq, ← List.forall₂_eq_eq_eq, List.forall₂_map_left_iff,
      List.forall₂_map_right_iff]
    exact hrearranged.tasks.imp fun _ _ hsame => hsame.key
  unfold fingerprint ExecutionPlan.fingerprint
  rw [entryPayloads_eq, entryPayloads_eq, hrearranged.slots, hpayloads, horder,
    hrearranged.workflowName, hrearranged.workflowVersion, hrearranged.definitionFingerprint,
    hrearranged.failurePolicy, hrearranged.groups, hrearranged.requiredCapabilities,
    hrearranged.requiredIntegrations, hrearranged.diagnostics]

end PlanDeclaration

end Rearranging

section Separating

structure InputDeclaration.Same (left right : InputDeclaration) : Prop where
  name : left.name = right.name
  required : left.required = right.required
  portable : left.portable = right.portable
  metadata : left.metadata.payload = right.metadata.payload

structure OutputDeclaration.Same (left right : OutputDeclaration) : Prop where
  name : left.name = right.name
  portable : left.portable = right.portable
  metadata : left.metadata.payload = right.metadata.payload

/-- The same policy, with its categories as a set. -/
structure SameRetryPolicy (left right : RetryPolicy) : Prop where
  maxAttempts : left.maxAttempts = right.maxAttempts
  backoffStrategy : left.backoffStrategy = right.backoffStrategy
  initialDelaySeconds : left.initialDelaySeconds = right.initialDelaySeconds
  maxDelaySeconds : left.maxDelaySeconds = right.maxDelaySeconds
  jitter : left.jitter = right.jitter
  categories : ∀ category, category ∈ left.retryableFailureCategories ↔
    category ∈ right.retryableFailureCategories
  totalBudgetSeconds : left.totalBudgetSeconds = right.totalBudgetSeconds
  reconciliationRequired : left.reconciliationRequired = right.reconciliationRequired

/-- Two tasks mean the same. -/
structure TaskDeclaration.Same (left right : TaskDeclaration) : Prop where
  key : left.key = right.key
  workload : ∃ payload,
    left.canonicalWorkload = .ok payload ∧ right.canonicalWorkload = .ok payload
  dependencies : left.dependencies.Perm right.dependencies
  retryPolicy : SameRetryPolicy left.retryPolicy right.retryPolicy
  timeoutPolicy : left.timeoutPolicy = right.timeoutPolicy
  triggerRule : left.triggerRule = right.triggerRule
  isDeterministic : left.isDeterministic = right.isDeterministic
  inputs : Shuffled InputDeclaration.Same left.inputs right.inputs
  outputs : Shuffled OutputDeclaration.Same left.outputs right.outputs
  metadata : left.metadata.payload = right.metadata.payload

/-- Two workflows mean the same, task by task. -/
structure WorkflowDeclaration.Same (left right : WorkflowDeclaration) : Prop where
  name : left.definition.name = right.definition.name
  version : left.definition.version = right.definition.version
  failurePolicy : left.definition.failurePolicy = right.definition.failurePolicy
  tasks : Shuffled TaskDeclaration.Same left.tasks right.tasks
  metadata : left.metadata.payload = right.metadata.payload

/-- Two plans mean the same, entry by entry. -/
structure PlanDeclaration.Same (left right : PlanDeclaration) : Prop where
  workflowName : left.plan.workflowName = right.plan.workflowName
  workflowVersion : left.plan.workflowVersion = right.plan.workflowVersion
  definitionFingerprint : left.plan.definitionFingerprint = right.plan.definitionFingerprint
  failurePolicy : left.plan.failurePolicy = right.plan.failurePolicy
  slots : left.plan.tasks.map TaskPlanEntry.slot = right.plan.tasks.map TaskPlanEntry.slot
  tasks : List.Forall₂ TaskDeclaration.Same left.tasks right.tasks
  groups : left.plan.groups = right.plan.groups
  requiredCapabilities : left.plan.requiredCapabilities = right.plan.requiredCapabilities
  requiredIntegrations : left.plan.requiredIntegrations = right.plan.requiredIntegrations

theorem BackoffStrategy.value_injective : Function.Injective BackoffStrategy.value := by
  intro left right hvalue
  cases left <;> cases right <;> first | rfl | exact absurd hvalue (by decide)

theorem RetryJitter.value_injective : Function.Injective RetryJitter.value := by
  intro left right hvalue
  cases left <;> cases right <;> first | rfl | exact absurd hvalue (by decide)

theorem TriggerRule.value_injective : Function.Injective TriggerRule.value := by
  intro left right hvalue
  cases left <;> cases right <;> first | rfl | exact absurd hvalue (by decide)

theorem Seconds.value_injective : Function.Injective Seconds.value := by
  intro left right hvalue
  cases left with
  | mk value nonneg asFloat converts =>
      cases right with
      | mk other nonneg' asFloat' converts' =>
          cases hvalue
          rw [converts] at converts'
          cases converts'
          rfl

variable {repr : FloatRepr}

theorem numberPayload_injective : Function.Injective (numberPayload repr) := by
  intro left right hpayload
  cases left <;> cases right <;> simp only [numberPayload, JsonValue.int.injEq,
    JsonValue.float.injEq, reduceCtorEq] at hpayload
  · rw [hpayload]
  · rw [repr.injective hpayload]

theorem optionalPayload_injective : Function.Injective (optionalPayload repr) := by
  have hnull : ∀ number, numberPayload repr number ≠ .null := by
    intro number
    cases number <;> simp [numberPayload]
  intro left right hpayload
  cases left with
  | none =>
      cases right with
      | none => rfl
      | some value => exact absurd hpayload.symm (hnull value)
  | some value =>
      cases right with
      | none => exact absurd hpayload (hnull value)
      | some other => rw [numberPayload_injective hpayload]

theorem optionalSeconds_injective {left right : Option Seconds}
    (hpayload : optionalPayload repr (left.map Seconds.value) =
      optionalPayload repr (right.map Seconds.value)) : left = right :=
  Option.map_injective Seconds.value_injective (optionalPayload_injective hpayload)

theorem str_injective : Function.Injective JsonValue.str := fun _ _ hstr => JsonValue.str.inj hstr

theorem sameRetryPolicy_of_payload {left right : RetryPolicy}
    (hpayload : retryPayload repr left = retryPayload repr right) :
    SameRetryPolicy left right := by
  simp only [retryPayload, JsonValue.mapping.injEq, List.cons.injEq, Prod.mk.injEq,
    JsonValue.int.injEq, JsonValue.str.injEq, JsonValue.bool.injEq, JsonValue.tuple.injEq,
    true_and, and_true] at hpayload
  obtain ⟨hattempts, hbackoff, hinitial, hmax, hjitter, hcategories, hbudget, hrequired⟩ :=
    hpayload
  refine ⟨by exact_mod_cast hattempts, BackoffStrategy.value_injective hbackoff,
    Seconds.value_injective (numberPayload_injective hinitial), optionalSeconds_injective hmax,
    RetryJitter.value_injective hjitter, fun category => ?_, optionalSeconds_injective hbudget,
    hrequired⟩
  have hsets := List.map_injective_iff.mpr str_injective hcategories
  have hinjective : Function.Injective FailureCategory.value := StrEnum.value_injective
  have hmem : ∀ policy : RetryPolicy, category ∈ policy.retryableFailureCategories ↔
      category.value ∈ sortedSet (policy.retryableFailureCategories.map
        FailureCategory.value) := by
    intro policy
    unfold sortedSet
    rw [mem_sortBy, List.mem_dedup, List.mem_map_of_injective hinjective]
  rw [hmem, hmem, hsets]

theorem timeoutPayload_injective : Function.Injective (timeoutPayload repr) := by
  intro left right hpayload
  simp only [timeoutPayload, JsonValue.mapping.injEq, List.cons.injEq, Prod.mk.injEq, true_and,
    and_true] at hpayload
  have htimeout := optionalPayload_injective hpayload
  cases left
  cases right
  cases htimeout
  rfl

theorem InputDeclaration.same_of_payload {left right : InputDeclaration}
    (hpayload : left.fingerprintPayload = right.fingerprintPayload) : left.Same right := by
  simp only [InputDeclaration.fingerprintPayload, JsonValue.mapping.injEq, List.cons.injEq,
    Prod.mk.injEq, JsonValue.str.injEq, JsonValue.bool.injEq, true_and, and_true] at hpayload
  obtain ⟨hname, hportable, hrequired, hmetadata⟩ := hpayload
  exact ⟨Text.ext hname, hrequired, hportable, hmetadata⟩

theorem OutputDeclaration.same_of_payload {left right : OutputDeclaration}
    (hpayload : left.fingerprintPayload = right.fingerprintPayload) : left.Same right := by
  simp only [OutputDeclaration.fingerprintPayload, JsonValue.mapping.injEq, List.cons.injEq,
    Prod.mk.injEq, JsonValue.str.injEq, JsonValue.bool.injEq, true_and, and_true] at hpayload
  obtain ⟨hname, hportable, hmetadata⟩ := hpayload
  exact ⟨Text.ext hname, hportable, hmetadata⟩

/-- Sorted declarations with equal payloads are the same up to order. -/
theorem shuffled_of_payloads {α κ : Type} [LinearOrder κ] {key : α → κ} {payload : α → JsonValue}
    {same : α → α → Prop} (hsame : ∀ left right, payload left = payload right → same left right)
    {left right : List α}
    (hpayloads : (sortBy key left).map payload = (sortBy key right).map payload) :
    Shuffled same left right := by
  rw [← List.forall₂_eq_eq_eq, List.forall₂_map_left_iff, List.forall₂_map_right_iff]
    at hpayloads
  exact shuffled_of_sorted (hpayloads.imp hsame)

/-- Two tasks with one payload mean the same. -/
theorem TaskDeclaration.same_of_payload {left right : TaskDeclaration} {payload : JsonValue}
    (hleft : left.fingerprintPayload repr = .ok payload)
    (hright : right.fingerprintPayload repr = .ok payload) : left.Same right := by
  obtain ⟨leftWorkload, hleftWorkload, hleft⟩ := bind_eq_ok hleft
  obtain ⟨rightWorkload, hrightWorkload, hright⟩ := bind_eq_ok hright
  have hpayload := Except.ok.inj (hleft.trans hright.symm)
  simp only [taskPayload, List.cons_append, List.nil_append, JsonValue.mapping.injEq,
    List.cons.injEq, Prod.mk.injEq, JsonValue.str.injEq, JsonValue.bool.injEq,
    JsonValue.tuple.injEq, true_and, and_true] at hpayload
  obtain ⟨rfl, hretry, htimeout, hinputs, houtputs, hmetadata, hkey, hdependencies, htrigger,
    hdeterministic⟩ := hpayload
  have hsorted := List.map_injective_iff.mpr str_injective hdependencies
  have hperm : (left.dependencies.map Text.value).Perm (right.dependencies.map Text.value) :=
    (sortBy_perm id _).symm.trans (hsorted ▸ sortBy_perm id _)
  exact {
    key := Text.ext hkey
    workload := ⟨_, hleftWorkload, hrightWorkload⟩
    dependencies := (List.map_perm_map_iff fun _ _ => Text.ext).mp hperm
    retryPolicy := sameRetryPolicy_of_payload hretry
    timeoutPolicy := timeoutPayload_injective htimeout
    triggerRule := TriggerRule.value_injective htrigger
    isDeterministic := hdeterministic
    inputs := shuffled_of_payloads (fun _ _ => InputDeclaration.same_of_payload) hinputs
    outputs := shuffled_of_payloads (fun _ _ => OutputDeclaration.same_of_payload) houtputs
    metadata := hmetadata }

/-- Tasks whose payloads are gathered to the same list mean the same. -/
theorem forall₂_same_of_gather {lefts rights : List TaskDeclaration}
    {payloads : List JsonValue}
    (hlefts : gather (lefts.map (TaskDeclaration.fingerprintPayload repr)) = .ok payloads)
    (hrights : gather (rights.map (TaskDeclaration.fingerprintPayload repr)) = .ok payloads) :
    List.Forall₂ TaskDeclaration.Same lefts rights := by
  have hfirst := forall₂_of_gather hlefts
  have hsecond := forall₂_of_gather hrights
  rw [List.forall₂_map_left_iff] at hfirst hsecond
  clear hlefts hrights
  induction hfirst generalizing rights with
  | nil =>
      cases hsecond
      exact .nil
  | cons hhead _ ih =>
      cases hsecond with
      | cons hother hrest => exact .cons (TaskDeclaration.same_of_payload hhead hother) (ih hrest)

/-- What the fingerprint of a definition is the digest of. -/
def Header.document (header : Header) (tasks : List JsonValue) : JsonValue :=
  .mapping [
    ("name", .str header.name.value),
    ("version", .str header.version.value),
    ("failure_policy", .str header.failurePolicy.value),
    ("tasks", .tuple tasks),
    ("metadata", header.metadata)]

def WorkflowDeclaration.document (repr : FloatRepr) (workflow : WorkflowDeclaration) :
    Except PyError JsonValue :=
  (gather ((sortBy (fun task => task.key.value) workflow.tasks).map
    (TaskDeclaration.fingerprintPayload repr))).map workflow.header.document

theorem WorkflowDeclaration.fingerprint_eq_digest (workflow : WorkflowDeclaration) :
    workflow.fingerprint repr = (workflow.document repr).map canonicalJsonDigest := by
  unfold fingerprint Header.fingerprint document
  rw [sorted_payloads]
  cases gather ((sortBy (fun task => task.key.value) workflow.tasks).map
    (TaskDeclaration.fingerprintPayload repr)) <;> rfl

/-- What the fingerprint of a plan is the digest of. -/
def planDocument (plan : ExecutionPlan) (tasks : List JsonValue) : JsonValue :=
  .mapping [
    ("workflow_name", .str plan.workflowName.value),
    ("workflow_version", .str plan.workflowVersion.value),
    ("definition_fingerprint", .str plan.definitionFingerprint.value),
    ("failure_policy", .str plan.failurePolicy.value),
    ("tasks", .tuple tasks),
    ("topological_order", .tuple (plan.topologicalOrder.map fun key => .str key.value)),
    ("groups", .tuple (plan.groups.map fun group =>
      .tuple (group.map fun key => .str key.value))),
    ("required_capabilities", .tuple (plan.requiredCapabilities.map .str)),
    ("required_integrations", .tuple (plan.requiredIntegrations.map .str)),
    ("diagnostics", .tuple (plan.diagnostics.map diagnosticPayload))]

def PlanDeclaration.document (repr : FloatRepr) (planned : PlanDeclaration) :
    Except PyError JsonValue :=
  (gather (List.zipWith (fun slot payload => payload.map (Slot.payload slot))
    (planned.plan.tasks.map TaskPlanEntry.slot)
    (planned.tasks.map (TaskDeclaration.fingerprintPayload repr)))).map
      (planDocument planned.plan)

theorem PlanDeclaration.fingerprint_eq_digest (planned : PlanDeclaration) :
    planned.fingerprint repr = (planned.document repr).map canonicalJsonDigest := by
  unfold fingerprint ExecutionPlan.fingerprint document
  rw [entryPayloads_eq]
  cases gather (List.zipWith (fun slot payload => payload.map (Slot.payload slot))
    (planned.plan.tasks.map TaskPlanEntry.slot)
    (planned.tasks.map (TaskDeclaration.fingerprintPayload repr))) <;> rfl

/-- Neither SHA-256 nor canonical JSON confuses the two documents. -/
structure ToldApart (left right : JsonValue) : Prop where
  digest : Sha256.hexDigestText (canonicalJsonText left) =
    Sha256.hexDigestText (canonicalJsonText right) →
      canonicalJsonText left = canonicalJsonText right
  text : canonicalJsonText left = canonicalJsonText right → left = right

theorem ToldApart.eq_of_digest {left right : JsonValue} (happart : ToldApart left right)
    (hdigest : canonicalJsonDigest left = canonicalJsonDigest right) : left = right := by
  have htext := congrArg String.toList hdigest
  unfold canonicalJsonDigest at htext
  rw [String.toList_append, String.toList_append] at htext
  exact happart.text (happart.digest (String.toList_injective (List.append_cancel_left htext)))

/-- A fingerprint is the digest of a document. -/
theorem exists_document {document : Except PyError JsonValue} {fingerprint : String}
    (hfingerprint : document.map canonicalJsonDigest = .ok fingerprint) :
    ∃ value, document = .ok value ∧ canonicalJsonDigest value = fingerprint := by
  cases document with
  | error error => cases hfingerprint
  | ok value => exact ⟨value, rfl, Except.ok.inj hfingerprint⟩

/-- Definitions with one fingerprint mean the same. -/
theorem WorkflowDeclaration.same_of_fingerprint {left right : WorkflowDeclaration}
    {fingerprint : String} (hleft : left.fingerprint repr = .ok fingerprint)
    (hright : right.fingerprint repr = .ok fingerprint)
    (happart : ∀ first second, left.document repr = .ok first →
      right.document repr = .ok second → ToldApart first second) : left.Same right := by
  rw [fingerprint_eq_digest] at hleft hright
  obtain ⟨first, hfirst, hdigest⟩ := exists_document hleft
  obtain ⟨second, hsecond, hother⟩ := exists_document hright
  obtain rfl := (happart first second hfirst hsecond).eq_of_digest (hdigest.trans hother.symm)
  obtain ⟨leftTasks, hleftTasks, hfirst⟩ := map_eq_ok hfirst
  obtain ⟨rightTasks, hrightTasks, hsecond⟩ := map_eq_ok hsecond
  have hdocument := hfirst.trans hsecond.symm
  simp only [Header.document, header, JsonValue.mapping.injEq, List.cons.injEq,
    Prod.mk.injEq, JsonValue.str.injEq, JsonValue.tuple.injEq, true_and, and_true] at hdocument
  obtain ⟨hname, hversion, rfl, hmetadata⟩ := hdocument
  exact {
    name := Text.ext hname
    version := Text.ext hversion
    failurePolicy := rfl
    tasks := shuffled_of_sorted (forall₂_same_of_gather hleftTasks hrightTasks)
    metadata := hmetadata }

theorem ExecutorRequirement.payload_injective :
    Function.Injective ExecutorRequirement.payload := by
  intro left right hpayload
  simp only [ExecutorRequirement.payload, JsonValue.mapping.injEq, List.cons.injEq,
    Prod.mk.injEq, JsonValue.str.injEq, JsonValue.bool.injEq, true_and, and_true] at hpayload
  obtain ⟨hexecutor, hworkload, hportable⟩ := hpayload
  cases left
  cases right
  cases Text.ext hexecutor
  cases Text.ext hworkload
  cases hportable
  rfl

/-- The payload of an entry tells slots and tasks apart. -/
theorem Slot.payload_injective {left right : Slot} {first second : JsonValue}
    (hpayload : left.payload first = right.payload second) : left = right ∧ first = second := by
  simp only [Slot.payload, JsonValue.mapping.injEq, List.cons.injEq, Prod.mk.injEq,
    JsonValue.int.injEq, JsonValue.tuple.injEq, Int.natCast_inj, true_and, and_true] at hpayload
  obtain ⟨htask, hposition, hgroup, hrequirement, hintegrations⟩ := hpayload
  refine ⟨?_, htask⟩
  cases left
  cases right
  cases hposition
  cases hgroup
  cases ExecutorRequirement.payload_injective hrequirement
  cases List.map_injective_iff.mpr str_injective hintegrations
  rfl

/-- Entries whose payloads are gathered have tasks whose payloads are gathered. -/
theorem gather_zipWith_eq_ok {slots : List Slot} {results : List (Except PyError JsonValue)}
    {payloads : List JsonValue} (hlength : slots.length = results.length)
    (hpayloads : gather (List.zipWith (fun slot payload => payload.map (Slot.payload slot))
      slots results) = .ok payloads) :
    ∃ tasks, gather results = .ok tasks ∧ tasks.length = slots.length ∧
      payloads = List.zipWith Slot.payload slots tasks := by
  induction slots generalizing results payloads with
  | nil =>
      obtain rfl := List.eq_nil_of_length_eq_zero hlength.symm
      cases hpayloads
      exact ⟨[], rfl, rfl, rfl⟩
  | cons slot slots ih =>
      cases results with
      | nil => cases hlength
      | cons result results =>
          obtain ⟨payload, hpayload, hrest⟩ := bind_eq_ok hpayloads
          obtain ⟨others, hothers, hall⟩ := bind_eq_ok hrest
          obtain ⟨task, htask, hthis⟩ := map_eq_ok hpayload
          obtain ⟨tasks, htasks, hcount, hzip⟩ := ih (Nat.succ.inj hlength) hothers
          refine ⟨task :: tasks, ?_, by simp [hcount], ?_⟩
          · rw [htask, gather, htasks]
            rfl
          · rw [List.zipWith_cons_cons, hthis, ← hzip]
            exact (Except.ok.inj hall).symm

/-- The payloads of entries tell their slots and tasks apart. -/
theorem zipWith_payload_injective {lefts rights : List Slot} {firsts seconds : List JsonValue}
    (hfirsts : firsts.length = lefts.length) (hseconds : seconds.length = rights.length)
    (hpayloads : List.zipWith Slot.payload lefts firsts =
      List.zipWith Slot.payload rights seconds) : lefts = rights ∧ firsts = seconds := by
  induction lefts generalizing rights firsts seconds with
  | nil =>
      obtain rfl := List.eq_nil_of_length_eq_zero hfirsts
      have hlength := congrArg List.length hpayloads
      rw [List.length_zipWith, List.length_zipWith, hseconds, Nat.min_self] at hlength
      obtain rfl := List.eq_nil_of_length_eq_zero hlength.symm
      obtain rfl := List.eq_nil_of_length_eq_zero hseconds
      exact ⟨rfl, rfl⟩
  | cons left lefts ih =>
      obtain ⟨first, firsts, rfl⟩ := List.exists_cons_of_length_eq_add_one hfirsts
      cases rights with
      | nil => cases hpayloads
      | cons right rights =>
          obtain ⟨second, seconds, rfl⟩ := List.exists_cons_of_length_eq_add_one hseconds
          obtain ⟨hhead, hrest⟩ := List.cons.inj hpayloads
          obtain ⟨rfl, rfl⟩ := Slot.payload_injective hhead
          obtain ⟨rfl, rfl⟩ := ih (Nat.succ.inj hfirsts) (Nat.succ.inj hseconds) hrest
          exact ⟨rfl, rfl⟩

theorem textPayloads_injective :
    Function.Injective fun keys : List Text => keys.map fun key => JsonValue.str key.value :=
  List.map_injective_iff.mpr fun _ _ hstr => Text.ext (JsonValue.str.inj hstr)

theorem PlanDeclaration.length_slots (planned : PlanDeclaration) (repr : FloatRepr) :
    (planned.plan.tasks.map TaskPlanEntry.slot).length =
      (planned.tasks.map (TaskDeclaration.fingerprintPayload repr)).length := by
  have hlength := congrArg List.length planned.declared
  rw [List.length_map, List.length_map] at hlength
  rw [List.length_map, List.length_map, hlength]

/-- Plans with one fingerprint mean the same. -/
theorem PlanDeclaration.same_of_fingerprint {left right : PlanDeclaration}
    {fingerprint : String} (hleft : left.fingerprint repr = .ok fingerprint)
    (hright : right.fingerprint repr = .ok fingerprint)
    (happart : ∀ first second, left.document repr = .ok first →
      right.document repr = .ok second → ToldApart first second) : left.Same right := by
  rw [fingerprint_eq_digest] at hleft hright
  obtain ⟨first, hfirst, hdigest⟩ := exists_document hleft
  obtain ⟨second, hsecond, hother⟩ := exists_document hright
  obtain rfl := (happart first second hfirst hsecond).eq_of_digest (hdigest.trans hother.symm)
  obtain ⟨leftEntries, hleftEntries, hfirst⟩ := map_eq_ok hfirst
  obtain ⟨rightEntries, hrightEntries, hsecond⟩ := map_eq_ok hsecond
  have hdocument := hfirst.trans hsecond.symm
  simp only [planDocument, JsonValue.mapping.injEq, List.cons.injEq, Prod.mk.injEq,
    JsonValue.str.injEq, JsonValue.tuple.injEq, true_and, and_true] at hdocument
  obtain ⟨hname, hversion, hdefinition, rfl, -, hgroups, hcapabilities, hintegrations, -⟩ :=
    hdocument
  obtain ⟨leftTasks, hleftTasks, hleftCount, hentries⟩ :=
    gather_zipWith_eq_ok (left.length_slots repr) hleftEntries
  obtain ⟨rightTasks, hrightTasks, hrightCount, hothers⟩ :=
    gather_zipWith_eq_ok (right.length_slots repr) hrightEntries
  obtain ⟨hslots, rfl⟩ :=
    zipWith_payload_injective hleftCount hrightCount (hentries.symm.trans hothers)
  exact {
    workflowName := Text.ext hname
    workflowVersion := Text.ext hversion
    definitionFingerprint := Text.ext hdefinition
    failurePolicy := rfl
    slots := hslots
    tasks := forall₂_same_of_gather hleftTasks hrightTasks
    groups := by
      apply List.map_injective_iff.mpr _ hgroups
      exact fun _ _ hgroup => textPayloads_injective (JsonValue.tuple.inj hgroup)
    requiredCapabilities := List.map_injective_iff.mpr str_injective hcapabilities
    requiredIntegrations := List.map_injective_iff.mpr str_injective hintegrations }

end Separating

end PyWorkflowKit.Planning
