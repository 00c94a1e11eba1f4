import PyWorkflowKit.Runtime.Outcomes

/-!
# Runtime inspection

The diagnostic snapshot of a run, and where its list of ready tasks and its report of a
deadlock differ from what the plan loop decides.
-/

namespace PyWorkflowKit.Diagnostics

open PyWorkflowKit.Core PyWorkflowKit.Domain PyWorkflowKit.States
open PyWorkflowKit.Persistence PyWorkflowKit.Planning PyWorkflowKit.Policies
open PyWorkflowKit.Runtime PyWorkflowKit.Authoring

/-- `_SCHEDULABLE_TASK_STATUSES`. -/
def schedulable (status : TaskRunStatus) : Bool :=
  status = .pending || status = .ready

/-- `_ACTIVE_TASK_STATUSES`. -/
def active (status : TaskRunStatus) : Bool :=
  status = .running || status = .unknownOutcome

structure TaskInspection where
  taskKey : Text
  taskRunId : TaskRunId
  status : TaskRunStatus
  attemptCount : Nat
  upstreamTaskKeys : List Text
  externalRunCount : Nat
  outputCheckpointed : Bool
deriving DecidableEq

structure RuntimeInspection where
  workflowRunId : WorkflowRunId
  workflowName : Text
  workflowVersion : Text
  status : String
  tasks : List TaskInspection
  eventCount : Nat
  outputCheckpointCount : Nat
  readyTaskKeys : List Text
  blockedTaskKeys : List Text
  deadlocked : Bool
  deadlockReason : Option String
deriving DecidableEq

/-- The planner and the fingerprint of its plans. -/
structure RuntimeInspector where
  definitionFingerprint : WorkflowDefinition → Text
  planFingerprint : ExecutionPlan → Text

/-- The list that a task is put on. -/
inductive Placement where
  | ready
  | blocked
  | unlisted
deriving DecidableEq

/-- `all(...)` over the dependencies stops at the first that has not succeeded. -/
def dependenciesSucceeded (byKey : TaskRunsByKey) : List Text → Except PyError Bool
  | [] => .ok true
  | upstream :: rest =>
      match byKey.find? upstream with
      | none => .error (.keyError upstream.value)
      | some taskRun =>
          if taskRun.status = .succeeded then dependenciesSucceeded byKey rest
          else .ok false

/-- The list for a task run of an entry. -/
def placeTask (byKey : TaskRunsByKey) (entry : TaskPlanEntry) (taskRun : TaskRun) :
    Except PyError Placement :=
  if taskRun.status = .blocked then .ok .blocked
  else if schedulable taskRun.status then do
    if ← dependenciesSucceeded byKey entry.dependencies then .ok .ready else .ok .blocked
  else .ok .unlisted

/-- The body of the loop of `inspect`. -/
def inspectEntry (state : MemoryState) (byKey : TaskRunsByKey) (entry : TaskPlanEntry) :
    Except PyError (TaskInspection × Placement) :=
  match byKey.find? entry.key with
  | none =>
      .error (.runtimeInvariant
        ("runtime inspection is missing TaskRun for " ++ PyError.quoted entry.key.value))
  | some taskRun => do
      let attempts := state.listTaskAttempts taskRun.taskRunId
      let placement ← placeTask byKey entry taskRun
      .ok ({
        taskKey := entry.key
        taskRunId := taskRun.taskRunId
        status := taskRun.status
        attemptCount := attempts.length
        upstreamTaskKeys := entry.dependencies
        externalRunCount := (attempts.map fun attempt =>
          (state.listExternalRunRefs attempt.attemptId).length).sum
        outputCheckpointed := (state.outputCheckpoints.find? taskRun.taskRunId).isSome },
        placement)

/-- The keys of the tasks that were put on a list. -/
def placedOn (placement : Placement) (inspected : List (TaskInspection × Placement)) :
    List Text :=
  (inspected.filter fun item => item.2 = placement).map fun item => item.1.taskKey

namespace RuntimeInspector

variable (inspector : RuntimeInspector)

/-- The plan that is inspected. -/
def compile : Submission → Except PyError ExecutionPlan
  | .definition workflow => Planning.compile inspector.definitionFingerprint workflow
  | .plan plan => .ok plan

/-- `RuntimeInspector.inspect`. -/
def inspect (workflow : Submission) (workflowRunId : WorkflowRunId) :
    MemoryAction RuntimeInspection := do
  let plan ← Action.ofExcept (inspector.compile workflow)
  let run ← Memory.getWorkflowRun workflowRunId
  if run.workflowName ≠ plan.workflowName ∨ run.workflowVersion ≠ plan.workflowVersion ∨
      run.definitionFingerprint ≠ plan.definitionFingerprint ∨
      run.planFingerprint ≠ inspector.planFingerprint plan then
    Action.raise (.runtimeInvariant
      "runtime inspection plan does not match persisted WorkflowRun identity")
  else do
    let taskRuns ← Action.read fun state => state.listTaskRuns workflowRunId
    let byKey : TaskRunsByKey := .ofList taskRuns
    let inspected ← Action.readExcept fun state =>
      gather (plan.tasks.map (inspectEntry state byKey))
    let ready := placedOn .ready inspected
    let nonterminal := taskRuns.filter fun taskRun => ¬ taskRun.status.isTerminal
    let hasActiveWork := nonterminal.any fun taskRun => active taskRun.status
    let deadlocked := !nonterminal.isEmpty && ready.isEmpty && !hasActiveWork
    let events ← Memory.listRuntimeEvents workflowRunId
    pure {
      workflowRunId := run.runId
      workflowName := run.workflowName
      workflowVersion := run.workflowVersion
      status := run.status.value
      tasks := inspected.map Prod.fst
      eventCount := events.length
      outputCheckpointCount :=
        (inspected.filter fun item => item.1.outputCheckpointed).length
      readyTaskKeys := ready
      blockedTaskKeys := placedOn .blocked inspected
      deadlocked := deadlocked
      deadlockReason :=
        if deadlocked then
          some "non-terminal tasks remain but no task has all dependencies in SUCCEEDED state"
        else none }

end RuntimeInspector

section Agreement

variable (store : MemoryState) (workflowRunId : WorkflowRunId)

/-- The task runs of a run by their keys. -/
def persistedRuns : TaskRunsByKey := .ofList (store.listTaskRuns workflowRunId)

/-- The persisted statuses that the plan loop decides on. -/
def statuses (taskKey : Text) : Option TaskRunStatus :=
  ((persistedRuns store workflowRunId).find? taskKey).map TaskRun.status

/-- The plan loop would execute the task. -/
def Runnable (entry : TaskPlanEntry) : Prop :=
  evaluateReadiness entry (statuses store workflowRunId) = .ok ⟨true, none⟩

/-- The plan loop would skip the task. -/
def Skippable (entry : TaskPlanEntry) : Prop :=
  ∃ reason, evaluateReadiness entry (statuses store workflowRunId) = .ok ⟨false, some reason⟩

/-- All dependencies of the task have succeeded. -/
def AllSucceeded (entry : TaskPlanEntry) : Prop :=
  ∀ upstream ∈ entry.dependencies, statuses store workflowRunId upstream = some .succeeded

/-- The inspection lists the tasks that the plan loop would execute, and it reports a
deadlock only where the loop could do nothing. -/
structure InspectionAgrees (plan : ExecutionPlan) (inspection : RuntimeInspection) : Prop where
  ready : ∀ entry ∈ plan.tasks, ∀ status, statuses store workflowRunId entry.key = some status →
    schedulable status = true →
      (entry.key ∈ inspection.readyTaskKeys ↔ Runnable store workflowRunId entry)
  deadlock : inspection.deadlocked = true →
    (∀ taskRun ∈ store.listTaskRuns workflowRunId, active taskRun.status = false) ∧
      ∀ entry ∈ plan.tasks, ∀ status, statuses store workflowRunId entry.key = some status →
        status.isTerminal = false →
          ¬ Runnable store workflowRunId entry ∧ ¬ Skippable store workflowRunId entry

/-- The statuses of the dependencies on which a rule and the inspection differ: the
inspection takes success of all of them for readiness, whatever the rule. -/
def Differs (rule : TriggerRule) (upstream : List TaskRunStatus) : Prop :=
  match rule with
  | .always | .allDone =>
      upstream.all TaskRunStatus.isTerminal ∧ ∃ status ∈ upstream, status ≠ .succeeded
  | .allSuccess =>
      (∀ status ∈ upstream, status = .succeeded ∨ status = .reused) ∧ .reused ∈ upstream
  | .anySuccess =>
      upstream = [] ∨
        upstream.all TaskRunStatus.isTerminal ∧ (∃ status ∈ upstream, status ≠ .succeeded) ∧
          (.succeeded ∈ upstream ∨ .reused ∈ upstream)
  | .anyFailed =>
      (∀ status ∈ upstream, status = .succeeded) ∨
        upstream.all TaskRunStatus.isTerminal ∧ (.failed ∈ upstream ∨ .timedOut ∈ upstream)
  | .noneFailed =>
      upstream.all TaskRunStatus.isTerminal ∧ (∃ status ∈ upstream, status ≠ .succeeded) ∧
        .failed ∉ upstream ∧ .timedOut ∉ upstream

/-- No waiting task has dependencies on which its rule and the inspection differ, and where
nothing is active and nothing is listed as ready no waiting task has dependencies that all
have ended. -/
structure InspectionFits (plan : ExecutionPlan) : Prop where
  plain : ∀ entry ∈ plan.tasks, ∀ status, statuses store workflowRunId entry.key = some status →
    schedulable status = true → ∀ upstream,
      entry.dependencies.map (statuses store workflowRunId) = upstream.map some →
        ¬ Differs entry.triggerRule upstream
  moving :
    (∃ taskRun ∈ store.listTaskRuns workflowRunId, active taskRun.status = true) ∨
    (∃ entry ∈ plan.tasks, ∃ status, statuses store workflowRunId entry.key = some status ∧
      schedulable status = true ∧ AllSucceeded store workflowRunId entry) ∨
    ∀ entry ∈ plan.tasks, ∀ status, statuses store workflowRunId entry.key = some status →
      status.isTerminal = false →
        ∃ upstream ∈ entry.dependencies, ∀ ended,
          statuses store workflowRunId upstream = some ended → ended.isTerminal = false

end Agreement

theorem active_of_terminal {status : TaskRunStatus} (hended : status.isTerminal = true) :
    active status = false := by
  cases status <;> first | rfl | cases hended

section Decisions

variable {upstream : List TaskRunStatus}

theorem ready_decideReadiness (rule : TriggerRule) :
    decideReadiness rule upstream = ⟨true, none⟩ ↔
      upstream.all TaskRunStatus.isTerminal ∧ allowedBy rule upstream = true := by
  unfold decideReadiness
  split
  · next hopen => simp [hopen]
  · next hended =>
    rw [not_not] at hended
    split
    · next hallowed => simp [hended, hallowed]
    · next hrefused => simp [hrefused]

/-- Where all dependencies have ended the task is executed or skipped. -/
theorem decides_iff (rule : TriggerRule) :
    (decideReadiness rule upstream = ⟨true, none⟩ ∨
        ∃ reason, decideReadiness rule upstream = ⟨false, some reason⟩) ↔
      upstream.all TaskRunStatus.isTerminal = true := by
  unfold decideReadiness
  split
  · next hopen => simp [hopen]
  · next hended =>
    rw [not_not] at hended
    split <;> simp [hended]

theorem terminal_of_succeeded (hall : ∀ status ∈ upstream, status = .succeeded) :
    upstream.all TaskRunStatus.isTerminal = true := by
  rw [List.all_eq_true]
  intro status hstatus
  rw [hall status hstatus]
  rfl

theorem any_either (first second : TaskRunStatus) :
    (upstream.any fun status => status = first || status = second) = true ↔
      first ∈ upstream ∨ second ∈ upstream := by
  simp only [List.any_eq_true, Bool.or_eq_true, decide_eq_true_eq]
  constructor
  · rintro ⟨status, hstatus, rfl | rfl⟩
    · exact Or.inl hstatus
    · exact Or.inr hstatus
  · rintro (hmem | hmem)
    · exact ⟨_, hmem, Or.inl rfl⟩
    · exact ⟨_, hmem, Or.inr rfl⟩

/-- Success of all dependencies is what the rule asks for, except on these statuses. -/
theorem differs_iff (rule : TriggerRule) :
    Differs rule upstream ↔
      ¬ ((∀ status ∈ upstream, status = .succeeded) ↔
        decideReadiness rule upstream = ⟨true, none⟩) := by
  rw [ready_decideReadiness]
  have hended := @terminal_of_succeeded upstream
  have hcases : ¬ ((∀ status ∈ upstream, status = .succeeded) ↔
      upstream.all TaskRunStatus.isTerminal = true ∧ allowedBy rule upstream = true) ↔
      ((∀ status ∈ upstream, status = .succeeded) ∧ ¬ allowedBy rule upstream = true) ∨
        upstream.all TaskRunStatus.isTerminal = true ∧
          (∃ status ∈ upstream, status ≠ .succeeded) ∧ allowedBy rule upstream = true := by
    have hnot : (∃ status ∈ upstream, status ≠ TaskRunStatus.succeeded) ↔
        ¬ ∀ status ∈ upstream, status = .succeeded := by
      push Not
      rfl
    rw [hnot]
    tauto
  rw [hcases]
  cases rule with
  | always => simp [Differs, allowedBy]
  | allDone => simp [Differs, allowedBy]
  | allSuccess =>
      have hallowed : allowedBy .allSuccess upstream = true ↔
          ∀ status ∈ upstream, status = .succeeded ∨ status = .reused := by
        simp [allowedBy]
      rw [hallowed]
      simp only [Differs]
      constructor
      · rintro ⟨hall, hreused⟩
        refine Or.inr ⟨?_, ⟨.reused, hreused, by decide⟩, hall⟩
        rw [List.all_eq_true]
        intro status hstatus
        rcases hall status hstatus with rfl | rfl <;> rfl
      · rintro (⟨hall, hrefused⟩ | ⟨-, ⟨status, hstatus, hne⟩, hall⟩)
        · exact absurd (fun status hstatus => Or.inl (hall status hstatus)) hrefused
        · refine ⟨hall, ?_⟩
          rwa [← (hall status hstatus).resolve_left hne]
  | anySuccess =>
      have hallowed : allowedBy .anySuccess upstream = true ↔
          .succeeded ∈ upstream ∨ .reused ∈ upstream := any_either _ _
      rw [hallowed]
      simp only [Differs]
      refine or_congr ?_ Iff.rfl
      constructor
      · rintro rfl
        simp
      · rintro ⟨hall, hrefused⟩
        cases upstream with
        | nil => rfl
        | cons status rest =>
            rw [hall status List.mem_cons_self] at hrefused
            exact absurd (Or.inl List.mem_cons_self) hrefused
  | anyFailed =>
      have hallowed : allowedBy .anyFailed upstream = true ↔
          .failed ∈ upstream ∨ .timedOut ∈ upstream := any_either _ _
      rw [hallowed]
      simp only [Differs]
      refine or_congr ⟨fun hall => ⟨hall, ?_⟩, And.left⟩ (and_congr_right fun _ => ?_)
      · rintro (hmem | hmem) <;> cases hall _ hmem
      · refine ⟨fun hmem => ⟨?_, hmem⟩, And.right⟩
        rcases hmem with hmem | hmem
        · exact ⟨_, hmem, by decide⟩
        · exact ⟨_, hmem, by decide⟩
  | noneFailed =>
      have hallowed : allowedBy .noneFailed upstream = true ↔
          .failed ∉ upstream ∧ .timedOut ∉ upstream := by
        rw [allowedBy, Bool.not_eq_true', ← Bool.not_eq_true, any_either, not_or]
      rw [hallowed]
      simp only [Differs]
      constructor
      · intro hdiffers
        exact Or.inr hdiffers
      · rintro (⟨hall, hrefused⟩ | hdiffers)
        · refine absurd ⟨fun hmem => ?_, fun hmem => ?_⟩ hrefused <;> cases hall _ hmem
        · exact hdiffers

end Decisions

section Readings

variable {store : MemoryState} {workflowRunId : WorkflowRunId} {entry : TaskPlanEntry}

/-- The dependencies all have a status, and the loop decides on these; or one of them has
none, and then it neither executes nor skips. -/
theorem upstream_cases (store : MemoryState) (workflowRunId : WorkflowRunId)
    (entry : TaskPlanEntry) :
    (∃ upstream : List TaskRunStatus,
        entry.dependencies.map (statuses store workflowRunId) = upstream.map some ∧
        (Runnable store workflowRunId entry ↔
          decideReadiness entry.triggerRule upstream = ⟨true, none⟩) ∧
        (Skippable store workflowRunId entry ↔
          ∃ reason, decideReadiness entry.triggerRule upstream = ⟨false, some reason⟩)) ∨
      (∃ upstream ∈ entry.dependencies, statuses store workflowRunId upstream = none) ∧
        ¬ Runnable store workflowRunId entry ∧ ¬ Skippable store workflowRunId entry := by
  unfold Runnable Skippable
  cases hdecision : evaluateReadiness entry (statuses store workflowRunId) with
  | ok decision =>
      obtain ⟨upstream, hupstream, rfl⟩ := of_evaluateReadiness hdecision
      exact Or.inl ⟨upstream, hupstream, by simp, by simp⟩
  | error error =>
      obtain ⟨upstream, hmem, hnone, -⟩ := evaluateReadiness_eq_error hdecision
      exact Or.inr ⟨⟨upstream, hmem, hnone⟩, by simp, by simp⟩

theorem forall_upstream_iff {upstream : List TaskRunStatus}
    (hupstream : entry.dependencies.map (statuses store workflowRunId) = upstream.map some)
    (accepts : TaskRunStatus → Prop) :
    (∀ key ∈ entry.dependencies, ∃ status, statuses store workflowRunId key = some status ∧
        accepts status) ↔ ∀ status ∈ upstream, accepts status := by
  have hfound : List.Forall₂ (fun key status => statuses store workflowRunId key = some status)
      entry.dependencies upstream := by
    rw [← List.forall₂_eq_eq_eq, List.forall₂_map_left_iff,
      List.forall₂_map_right_iff] at hupstream
    exact hupstream
  constructor
  · intro hall status hstatus
    obtain ⟨key, hkey, hthis⟩ := exists_of_forall₂_right hfound hstatus
    obtain ⟨other, hother, haccepts⟩ := hall key hkey
    rw [hthis] at hother
    cases hother
    exact haccepts
  · intro hall key hkey
    obtain ⟨status, hstatus, hthis⟩ := exists_of_forall₂_right hfound.flip hkey
    exact ⟨status, hthis, hall status hstatus⟩

/-- Success of all dependencies is readiness where the rule does not differ. -/
theorem allSucceeded_iff_runnable (store : MemoryState) (workflowRunId : WorkflowRunId)
    (entry : TaskPlanEntry) :
    (AllSucceeded store workflowRunId entry ↔ Runnable store workflowRunId entry) ↔
      ∀ upstream, entry.dependencies.map (statuses store workflowRunId) = upstream.map some →
        ¬ Differs entry.triggerRule upstream := by
  rcases upstream_cases store workflowRunId entry with
    ⟨upstream, hupstream, hrunnable, -⟩ | ⟨⟨key, hkey, hnone⟩, hidle, -⟩
  · have hall : AllSucceeded store workflowRunId entry ↔
        ∀ status ∈ upstream, status = .succeeded := by
      rw [← forall_upstream_iff hupstream]
      simp [AllSucceeded]
    rw [hall, hrunnable]
    constructor
    · intro hagrees others hothers
      rw [hupstream] at hothers
      obtain rfl := List.map_injective_iff.mpr (Option.some_injective _) hothers
      rw [differs_iff, not_not]
      exact hagrees
    · intro hplain
      have hthis := hplain upstream hupstream
      rwa [differs_iff, not_not] at hthis
  · constructor
    · intro _ upstream hupstream
      have hmem := List.mem_map_of_mem (f := statuses store workflowRunId) hkey
      rw [hupstream, hnone] at hmem
      simp at hmem
    · intro _
      refine iff_of_false (fun hall => ?_) hidle
      have hthis := hall key hkey
      rw [hnone] at hthis
      cases hthis

/-- A task whose dependencies have all ended is executed or skipped, and no other one. -/
theorem moves_iff (store : MemoryState) (workflowRunId : WorkflowRunId)
    (entry : TaskPlanEntry) :
    (Runnable store workflowRunId entry ∨ Skippable store workflowRunId entry) ↔
      ¬ ∃ upstream ∈ entry.dependencies, ∀ ended,
        statuses store workflowRunId upstream = some ended → ended.isTerminal = false := by
  have hturn : (¬ ∃ upstream ∈ entry.dependencies, ∀ ended,
      statuses store workflowRunId upstream = some ended → ended.isTerminal = false) ↔
      ∀ key ∈ entry.dependencies, ∃ status,
        statuses store workflowRunId key = some status ∧ status.isTerminal = true := by
    push Not
    simp
  rw [hturn]
  rcases upstream_cases store workflowRunId entry with
    ⟨upstream, hupstream, hrunnable, hskippable⟩ | ⟨⟨key, hkey, hnone⟩, hidle, hkept⟩
  · rw [hrunnable, hskippable, decides_iff, forall_upstream_iff hupstream, List.all_eq_true]
  · refine iff_of_false (not_or.mpr ⟨hidle, hkept⟩) fun hall => ?_
    obtain ⟨status, hstatus, -⟩ := hall key hkey
    rw [hnone] at hstatus
    cases hstatus

theorem dependenciesSucceeded_eq_true {byKey : TaskRunsByKey} {dependencies : List Text} :
    dependenciesSucceeded byKey dependencies = .ok true ↔
      ∀ upstream ∈ dependencies,
        (byKey.find? upstream).map TaskRun.status = some .succeeded := by
  induction dependencies with
  | nil => simp [dependenciesSucceeded]
  | cons upstream rest ih =>
      simp only [dependenciesSucceeded, List.forall_mem_cons]
      cases byKey.find? upstream with
      | none => simp
      | some taskRun =>
          simp only [Option.map_some, Option.some.injEq]
          split
          · next hsucceeded => rw [ih, and_iff_right hsucceeded]
          · next hother => simp [hother]

/-- The inspection lists the task as ready. -/
def Listed (store : MemoryState) (workflowRunId : WorkflowRunId) (entry : TaskPlanEntry) :
    Prop :=
  ∃ status, statuses store workflowRunId entry.key = some status ∧ schedulable status = true ∧
    AllSucceeded store workflowRunId entry

theorem inspectEntry_eq_ok {item : TaskInspection × Placement}
    (hitem : inspectEntry store (persistedRuns store workflowRunId) entry = .ok item) :
    item.1.taskKey = entry.key ∧
      (item.2 = .ready ↔ Listed store workflowRunId entry) := by
  unfold inspectEntry at hitem
  cases hfound : (persistedRuns store workflowRunId).find? entry.key with
  | none =>
      rw [hfound] at hitem
      cases hitem
  | some taskRun =>
      rw [hfound] at hitem
      obtain ⟨placement, hplacement, hrest⟩ := bind_eq_ok hitem
      cases hrest
      refine ⟨rfl, ?_⟩
      have hlisted : Listed store workflowRunId entry ↔
          schedulable taskRun.status = true ∧ AllSucceeded store workflowRunId entry := by
        simp [Listed, statuses, hfound]
      rw [hlisted]
      unfold placeTask at hplacement
      split at hplacement
      · next hblocked =>
        cases hplacement
        simp [hblocked, schedulable]
      · split at hplacement
        · next hschedulable =>
          obtain ⟨succeeded, hsucceeded, hlist⟩ := bind_eq_ok hplacement
          have hall : succeeded = true ↔ AllSucceeded store workflowRunId entry := by
            rw [AllSucceeded]
            refine Iff.trans ?_ dependenciesSucceeded_eq_true
            rw [hsucceeded]
            simp
          rw [and_iff_right hschedulable, ← hall]
          cases succeeded <;> cases hlist <;> simp
        · next hother =>
          cases hplacement
          simp [hother]

theorem readings_of_inspect {inspector : RuntimeInspector} {workflow : Submission}
    {inspection : RuntimeInspection} {plan : ExecutionPlan}
    (hplan : inspector.compile workflow = .ok plan)
    (hinspect : ((inspector.inspect workflow workflowRunId).run store).1 = .ok inspection) :
    ∃ inspected,
      gather (plan.tasks.map (inspectEntry store (persistedRuns store workflowRunId))) =
        .ok inspected ∧
      inspection.readyTaskKeys = placedOn .ready inspected ∧
      inspection.deadlocked =
        (!((store.listTaskRuns workflowRunId).filter fun taskRun =>
            ¬ taskRun.status.isTerminal).isEmpty &&
          inspection.readyTaskKeys.isEmpty &&
          !((store.listTaskRuns workflowRunId).filter fun taskRun =>
            ¬ taskRun.status.isTerminal).any fun taskRun => active taskRun.status) := by
  obtain ⟨after, hrun⟩ : ∃ after, (inspector.inspect workflow workflowRunId).run store =
      (.ok inspection, after) := ⟨_, Prod.ext hinspect rfl⟩
  obtain ⟨_, _, hcompiled, hrun⟩ := Action.run_bind_eq_ok hrun
  rw [hplan] at hcompiled
  cases hcompiled
  obtain ⟨run, _, hread, hrun⟩ := Action.run_bind_eq_ok hrun
  obtain ⟨-, rfl⟩ := (Prod.mk.injEq _ _ _ _).mp hread
  split at hrun
  · cases hrun
  · obtain ⟨taskRuns, _, hlist, hrun⟩ := Action.run_bind_eq_ok hrun
    cases hlist
    obtain ⟨inspected, _, hinspected, hrun⟩ := Action.run_bind_eq_ok hrun
    obtain ⟨hgather, rfl⟩ := (Prod.mk.injEq _ _ _ _).mp hinspected
    obtain ⟨events, _, -, hrun⟩ := Action.run_bind_eq_ok hrun
    cases hrun
    exact ⟨inspected, hgather, rfl, rfl⟩

/-- What an inspection says of a run. -/
theorem inspect_eq_ok {inspector : RuntimeInspector} {workflow : Submission}
    {inspection : RuntimeInspection} {plan : ExecutionPlan}
    (hplan : inspector.compile workflow = .ok plan)
    (hinspect : ((inspector.inspect workflow workflowRunId).run store).1 = .ok inspection) :
    (∀ key, key ∈ inspection.readyTaskKeys ↔
        ∃ entry ∈ plan.tasks, entry.key = key ∧ Listed store workflowRunId entry) ∧
      (inspection.deadlocked = true ↔
        (∃ taskRun ∈ store.listTaskRuns workflowRunId, taskRun.status.isTerminal = false) ∧
          inspection.readyTaskKeys = [] ∧
          ∀ taskRun ∈ store.listTaskRuns workflowRunId, active taskRun.status = false) := by
  obtain ⟨inspected, hinspected, hready, hdeadlocked⟩ :=
    readings_of_inspect hplan hinspect
  have hitems := forall₂_of_gather hinspected
  rw [List.forall₂_map_left_iff] at hitems
  constructor
  · intro key
    rw [hready]
    simp only [placedOn, List.mem_map, List.mem_filter, decide_eq_true_eq]
    constructor
    · rintro ⟨item, ⟨hitem, hplaced⟩, rfl⟩
      obtain ⟨entry, hentry, hthis⟩ := exists_of_forall₂_right hitems hitem
      obtain ⟨hkey, hlisted⟩ := inspectEntry_eq_ok hthis
      exact ⟨entry, hentry, hkey.symm, hlisted.mp hplaced⟩
    · rintro ⟨entry, hentry, rfl, hlisted⟩
      obtain ⟨item, hitem, hthis⟩ := exists_of_forall₂_right hitems.flip hentry
      obtain ⟨hkey, hplaced⟩ := inspectEntry_eq_ok hthis
      exact ⟨item, ⟨hitem, hplaced.mpr hlisted⟩, hkey⟩
  · rw [hdeadlocked]
    simp only [Bool.and_eq_true, Bool.not_eq_true', List.isEmpty_eq_false_iff_exists_mem,
      List.isEmpty_iff, List.any_eq_false, List.mem_filter, decide_eq_true_eq,
      Bool.not_eq_true, and_assoc]
    refine and_congr Iff.rfl (and_congr_right fun _ => ?_)
    constructor
    · intro hidle taskRun htaskRun
      by_cases hended : taskRun.status.isTerminal = true
      · exact active_of_terminal hended
      · exact hidle taskRun ⟨htaskRun, by simpa using hended⟩
    · rintro hidle taskRun ⟨htaskRun, -⟩
      exact hidle taskRun htaskRun

/-- An inspection agrees with the plan loop exactly where success of all dependencies is what
the rules of the waiting tasks ask for, and a task is active, listed as ready, or still
waiting for each that remains. -/
theorem inspectionAgrees_iff {inspector : RuntimeInspector} {workflow : Submission}
    {inspection : RuntimeInspection} {plan : ExecutionPlan}
    (hplan : inspector.compile workflow = .ok plan)
    (hinspect : ((inspector.inspect workflow workflowRunId).run store).1 = .ok inspection) :
    InspectionAgrees store workflowRunId plan inspection ↔
      InspectionFits store workflowRunId plan := by
  obtain ⟨hready, hdeadlocked⟩ := inspect_eq_ok hplan hinspect
  have hlisted : ∀ entry ∈ plan.tasks, ∀ status,
      statuses store workflowRunId entry.key = some status → schedulable status = true →
        (entry.key ∈ inspection.readyTaskKeys ↔ AllSucceeded store workflowRunId entry) := by
    intro entry hentry status hstatus hschedulable
    rw [hready]
    constructor
    · rintro ⟨other, hother, hkey, -, -, -, hall⟩
      obtain rfl := List.inj_on_of_nodup_map plan.distinct hother hentry hkey
      exact hall
    · intro hall
      exact ⟨entry, hentry, rfl, status, hstatus, hschedulable, hall⟩
  constructor
  · intro hagrees
    constructor
    · intro entry hentry status hstatus hschedulable
      rw [← allSucceeded_iff_runnable]
      rw [← hlisted entry hentry status hstatus hschedulable]
      exact hagrees.ready entry hentry status hstatus hschedulable
    · by_cases hactive : ∃ taskRun ∈ store.listTaskRuns workflowRunId,
          active taskRun.status = true
      · exact Or.inl hactive
      by_cases hsome : ∃ entry ∈ plan.tasks, Listed store workflowRunId entry
      · exact Or.inr (Or.inl hsome)
      refine Or.inr (Or.inr fun entry hentry status hstatus hwaiting => ?_)
      by_contra hended
      have hmoves := (moves_iff store workflowRunId entry).mpr hended
      obtain ⟨taskRun, hfound, rfl⟩ := Option.map_eq_some_iff.mp hstatus
      have hmem := Table.mem_of_mem_ofList (Table.mem_of_find? hfound)
      have hnone : inspection.readyTaskKeys = [] := by
        rw [List.eq_nil_iff_forall_not_mem]
        intro key hkey
        obtain ⟨other, hother, -, hthis⟩ := (hready key).mp hkey
        exact hsome ⟨other, hother, hthis⟩
      have hidle := (hagrees.deadlock (hdeadlocked.mpr ⟨⟨taskRun, hmem, hwaiting⟩, hnone,
        fun other hother => by
          by_contra hrunning
          exact hactive ⟨other, hother, by simpa using hrunning⟩⟩)).2 entry hentry _ hstatus
            hwaiting
      exact hmoves.elim hidle.1 hidle.2
  · intro hfits
    constructor
    · intro entry hentry status hstatus hschedulable
      rw [hlisted entry hentry status hstatus hschedulable, allSucceeded_iff_runnable]
      exact hfits.plain entry hentry status hstatus hschedulable
    · intro hreported
      obtain ⟨-, hnone, hidle⟩ := hdeadlocked.mp hreported
      refine ⟨hidle, fun entry hentry status hstatus hwaiting => ?_⟩
      rw [← not_or, moves_iff, not_not]
      rcases hfits.moving with ⟨taskRun, htaskRun, hactive⟩ |
        ⟨other, hother, hthis⟩ | hopen
      · rw [hidle taskRun htaskRun] at hactive
        cases hactive
      · have hmem := (hready other.key).mpr ⟨other, hother, rfl, hthis⟩
        rw [hnone] at hmem
        cases hmem
      · exact hopen entry hentry status hstatus hwaiting

end Readings

section Unfed

/-- A plan of one task that waits for the success of any of no dependencies. -/
def unfedPlan : ExecutionPlan where
  workflowName := .lit "orders"
  workflowVersion := .lit "1"
  definitionFingerprint := .lit "sha256:d"
  failurePolicy := .failFast
  tasks := [⟨{ extractTask .none with triggerRule := .anySuccess }, 0, 0,
    ⟨.lit "inline", .lit "registered", true⟩, []⟩]
  topologicalOrder := [.lit "extract"]
  groups := [[.lit "extract"]]
  requiredCapabilities := ["executor:inline", "workload:registered"]
  requiredIntegrations := []
  diagnostics := [topologyDiagnostic 1 1]
  nonempty := by simp
  distinct := by simp
  contiguous := rfl
  ordered := rfl
  grouped := rfl
  groupsAgree := by simp [GroupsAgree, TaskPlanEntry.key, extractTask]

def ordersInspector : RuntimeInspector where
  definitionFingerprint := ordersRuntime.definitionFingerprint
  planFingerprint := ordersRuntime.planFingerprint

/-- What the run of a plan has left to do after some steps, and the world it has reached. -/
def advanced (plan : ExecutionPlan) (rounds : Nat) :
    Procedure WorkflowResult × World :=
  (ordersRuntime.run (.plan plan) none).advance (answering ⟨.lit "run-1"⟩ extractRaises) rounds
    emptyWorld

theorem exists_inspection {plan : ExecutionPlan} {store : MemoryState}
    (hreturns : ((ordersInspector.inspect (.plan plan) ⟨.lit "run-1"⟩).run store).1.isOk =
      true) :
    ∃ inspection, ((ordersInspector.inspect (.plan plan) ⟨.lit "run-1"⟩).run store).1 =
      .ok inspection := by
  cases hinspect : ((ordersInspector.inspect (.plan plan) ⟨.lit "run-1"⟩).run store).1 with
  | error error =>
      rw [hinspect] at hreturns
      cases hreturns
  | ok inspection => exact ⟨inspection, rfl⟩

/-- The inspection of a run that has just created its tasks. -/
theorem inspectionAgrees_orders_iff :
    ∃ inspection,
      ((ordersInspector.inspect (.plan (ordersPlan .none)) ⟨.lit "run-1"⟩).run
        (advanced (ordersPlan .none) 13).2.store).1 = .ok inspection ∧
      (InspectionAgrees (advanced (ordersPlan .none) 13).2.store ⟨.lit "run-1"⟩
          (ordersPlan .none) inspection ↔
        InspectionFits (advanced (ordersPlan .none) 13).2.store ⟨.lit "run-1"⟩
          (ordersPlan .none)) := by
  obtain ⟨inspection, hinspect⟩ : ∃ inspection, ((ordersInspector.inspect
      (.plan (ordersPlan .none)) ⟨.lit "run-1"⟩).run
        (advanced (ordersPlan .none) 13).2.store).1 = .ok inspection :=
    exists_inspection (by decide +kernel)
  exact ⟨inspection, hinspect, inspectionAgrees_iff rfl hinspect⟩

/-- A run comes to a task that the loop skips and the inspection lists as ready. -/
theorem unfed_disagrees :
    (ordersRuntime.run (.plan unfedPlan) none).Reaches (ordersCourse unfedPlan).surroundings
        emptyWorld (advanced unfedPlan 10).1 (advanced unfedPlan 10).2 ∧
      ∃ inspection,
        ((ordersInspector.inspect (.plan unfedPlan) ⟨.lit "run-1"⟩).run
          (advanced unfedPlan 10).2.store).1 = .ok inspection ∧
        ¬ InspectionAgrees (advanced unfedPlan 10).2.store ⟨.lit "run-1"⟩ unfedPlan
          inspection := by
  constructor
  · exact reaches_answering (ordersCourse unfedPlan) extractRaises (fun _ _ => trivial) 10 _ _
  · have hreturns : (((ordersInspector.inspect (.plan unfedPlan) ⟨.lit "run-1"⟩).run
        (advanced unfedPlan 10).2.store).1.map RuntimeInspection.readyTaskKeys) =
        .ok [.lit "extract"] := by decide +kernel
    obtain ⟨inspection, hinspect⟩ : ∃ inspection, ((ordersInspector.inspect
        (.plan unfedPlan) ⟨.lit "run-1"⟩).run (advanced unfedPlan 10).2.store).1 =
          .ok inspection := exists_inspection (by decide +kernel)
    refine ⟨inspection, hinspect, fun hagrees => ?_⟩
    rw [hinspect] at hreturns
    have hready : inspection.readyTaskKeys = [.lit "extract"] := Except.ok.inj hreturns
    have hpending : statuses (advanced unfedPlan 10).2.store ⟨.lit "run-1"⟩ (.lit "extract") =
        some .pending := by decide +kernel
    obtain ⟨entry, hentry, hkey, hskipped⟩ : ∃ entry ∈ unfedPlan.tasks,
        entry.key = .lit "extract" ∧
          evaluateReadiness entry (statuses (advanced unfedPlan 10).2.store ⟨.lit "run-1"⟩) =
            .ok ⟨false, some .triggerRuleUnsatisfied⟩ :=
      ⟨_, List.mem_cons_self, rfl, rfl⟩
    have hrunnable := (hagrees.ready entry hentry .pending (hkey ▸ hpending) rfl).mp
      (by rw [hready, hkey]; exact List.mem_cons_self)
    rw [Runnable, hskipped] at hrunnable
    cases hrunnable

end Unfed

end PyWorkflowKit.Diagnostics
