import PyWorkflowKit.Persistence.Writes
import PyWorkflowKit.Runtime.Services

/-!
# Rules for store steps and transitions

What a store operation and a transition of one entity do when nobody else
changes the store in between.
-/

namespace PyWorkflowKit.Runtime

open PyWorkflowKit.Core PyWorkflowKit.Domain PyWorkflowKit.States
open PyWorkflowKit.Persistence PyWorkflowKit.Executors Program

/-- Nobody interferes with the steps of a procedure or with its clock readings. -/
structure Undisturbed (contract : Contract Service Service.Answer World) : Prop where
  step : contract.QuietAt none
  clock : contract.QuietAt (some .now)
  entersClock : ∀ world, contract.enters world .now
  idle : ∀ world, contract.guarantee world world

variable {contract : Contract Service Service.Answer World}
  (hcalm : Undisturbed contract) {α : Type} {post : Except PyError α → World → Prop}
  {world : World}

include hcalm

theorem meets_onStore {action : MemoryAction α} {result : Except PyError α}
    {after : MemoryState} (hrun : action.run world.store = (result, after))
    (hguarantee : contract.guarantee world { world with store := after })
    (hpost : post result { world with store := after }) :
    (onStore action).Meets contract post world := by
  apply meets_atomic_of_quiet hcalm.step
  · simpa [hrun] using hguarantee
  · simpa [hrun] using hpost

/-- A step that only reads the store. -/
theorem meets_read {action : MemoryAction α} {result : Except PyError α}
    (hrun : action.run world.store = (result, world.store)) (hpost : post result world) :
    (onStore action).Meets contract post world :=
  meets_onStore hcalm hrun (hcalm.idle world) hpost

theorem meets_query {read : MemoryState → α} (hpost : post (.ok (read world.store)) world) :
    (query read).Meets contract post world :=
  meets_read hcalm (Action.run_read read world.store) hpost

omit hcalm in
theorem meets_ofExcept {result : Except PyError α} (hpost : post result world) :
    (ofExcept result : Procedure α).Meets contract post world := hpost

theorem meets_now {post : Except PyError DateTime → World → Prop}
    (hok : ∀ at_, contract.allows world .now (some at_) → post (.ok at_) world)
    (hnaive : contract.allows world .now none → ∀ error, post (.error error) world) :
    now.Meets contract post world := by
  unfold now
  rw [meets_bind]
  apply meets_ask_of_quiet hcalm.clock (hcalm.entersClock world)
  intro answer hallows
  cases answer with
  | some at_ => exact hok at_ hallows
  | none => exact hnaive hallows _

/-- A workflow transition of the stored row follows the table or fails. -/
theorem meets_transitionWorkflow {post : Except PyError WorkflowRun → World → Prop}
    {run : WorkflowRun} {target : WorkflowRunStatus} {failure : Option FailureEvidence}
    (hcurrent : world.store.workflowRuns.find? run.runId = some run)
    (hnaive : contract.allows world .now none → ∀ error, post (.error error) world)
    (hok : ∀ (at_ : DateTime) (next : WorkflowRun),
      contract.allows world .now (some at_) →
      run.transition target at_.instant failure = .ok next →
      contract.guarantee world
          { world with store := world.store.afterWorkflowRun run.status next at_.instant } ∧
        post (.ok next)
          { world with store := world.store.afterWorkflowRun run.status next at_.instant })
    (herror : target ∉ workflowTransitions run.status → ∀ error,
      error.isStateMachineError = true → post (.error error) world) :
    (transitionWorkflow run target failure).Meets contract post world := by
  unfold transitionWorkflow
  rw [meets_bind]
  refine meets_now hcalm (fun at_ hallows => ?_) hnaive
  change (ofExcept _ >>= _ : Procedure WorkflowRun).Meets contract post world
  rw [meets_bind]
  apply meets_ofExcept
  cases hnext : run.transition target at_.instant failure with
  | error error =>
      have hrejected := WorkflowRun.transition_eq_error hnext
      exact herror hrejected.1 error hrejected.2
  | ok next =>
      obtain ⟨-, -, -, hidentity, -⟩ := WorkflowRun.of_transition hnext
      change (onStore _ >>= _ : Procedure WorkflowRun).Meets contract post world
      rw [meets_bind]
      have hfound : world.store.workflowRuns.find? next.runId = some run := by
        rw [← hidentity.1]
        exact hcurrent
      obtain ⟨hguarantee, hpost⟩ := hok at_ next hallows hnext
      exact meets_onStore hcalm (Memory.run_updateWorkflowRun hfound hidentity)
        hguarantee hpost

/-- A task transition of the stored row follows the table or fails. -/
theorem meets_transitionTask {post : Except PyError TaskRun → World → Prop}
    {taskRun : TaskRun} {target : TaskRunStatus} {skipReason : Option SkipReason}
    {failure : Option FailureEvidence}
    (hcurrent : world.store.taskRuns.find? taskRun.taskRunId = some taskRun)
    (hskip : skipReason.isSome = true ↔ target = .skipped) (hblock : target ≠ .blocked)
    (hnaive : contract.allows world .now none → ∀ error, post (.error error) world)
    (hok : ∀ (at_ : DateTime) (next : TaskRun), contract.allows world .now (some at_) →
      taskRun.transition target at_.instant skipReason none failure = .ok next →
      contract.guarantee world
          { world with store := world.store.afterTaskRun taskRun.status next at_.instant } ∧
        post (.ok next)
          { world with store := world.store.afterTaskRun taskRun.status next at_.instant })
    (herror : target ∉ taskRunTransitions taskRun.status → ∀ error,
      error.isStateMachineError = true → post (.error error) world) :
    (transitionTask taskRun target skipReason failure).Meets contract post world := by
  unfold transitionTask
  rw [meets_bind]
  refine meets_now hcalm (fun at_ hallows => ?_) hnaive
  change (ofExcept _ >>= _ : Procedure TaskRun).Meets contract post world
  rw [meets_bind]
  apply meets_ofExcept
  cases hnext : taskRun.transition target at_.instant skipReason none failure with
  | error error =>
      have hrejected := TaskRun.transition_eq_error hskip (by simpa using hblock) hnext
      exact herror hrejected.1 error hrejected.2
  | ok next =>
      obtain ⟨-, -, -, hidentity, -⟩ := TaskRun.of_transition hnext
      change (onStore _ >>= _ : Procedure TaskRun).Meets contract post world
      rw [meets_bind]
      have hfound : world.store.taskRuns.find? next.taskRunId = some taskRun := by
        rw [← hidentity.1]
        exact hcurrent
      obtain ⟨hguarantee, hpost⟩ := hok at_ next hallows hnext
      exact meets_onStore hcalm (Memory.run_updateTaskRun hfound hidentity)
        hguarantee hpost

/-- An attempt transition of the stored row follows the table or fails. -/
theorem meets_transitionAttempt {post : Except PyError TaskAttempt → World → Prop}
    {attempt : TaskAttempt} {target : TaskAttemptStatus} {failure : Option FailureEvidence}
    (hcurrent : world.store.taskAttempts.find? attempt.attemptId = some attempt)
    (hnaive : contract.allows world .now none → ∀ error, post (.error error) world)
    (hok : ∀ (at_ : DateTime) (next : TaskAttempt),
      contract.allows world .now (some at_) →
      attempt.transition target at_.instant failure = .ok next →
      contract.guarantee world
          { world with
            store := world.store.afterTaskAttempt attempt.status next at_.instant } ∧
        post (.ok next)
          { world with
            store := world.store.afterTaskAttempt attempt.status next at_.instant })
    (herror : target ∉ taskAttemptTransitions attempt.status → ∀ error,
      error.isStateMachineError = true → post (.error error) world) :
    (transitionAttempt attempt target failure).Meets contract post world := by
  unfold transitionAttempt
  rw [meets_bind]
  refine meets_now hcalm (fun at_ hallows => ?_) hnaive
  change (ofExcept _ >>= _ : Procedure TaskAttempt).Meets contract post world
  rw [meets_bind]
  apply meets_ofExcept
  cases hnext : attempt.transition target at_.instant failure with
  | error error =>
      have hrejected := TaskAttempt.transition_eq_error hnext
      exact herror hrejected.1 error hrejected.2
  | ok next =>
      obtain ⟨-, -, -, hidentity⟩ := TaskAttempt.of_transition hnext
      change (onStore _ >>= _ : Procedure TaskAttempt).Meets contract post world
      rw [meets_bind]
      have hfound : world.store.taskAttempts.find? next.attemptId = some attempt := by
        rw [← hidentity.1]
        exact hcurrent
      obtain ⟨hguarantee, hpost⟩ := hok at_ next hallows hnext
      exact meets_onStore hcalm (Memory.run_updateTaskAttempt hfound hidentity)
        hguarantee hpost

end PyWorkflowKit.Runtime
