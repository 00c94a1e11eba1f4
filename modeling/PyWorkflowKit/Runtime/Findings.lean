import PyWorkflowKit.Runtime.Reconciliation
import PyWorkflowKit.Runtime.Transitions

/-!
# What reconciliation finds and applies

The finding about one task, as a function of the store and of the verifiers'
answers, and what the reconciliation of that task does with it.
-/

namespace PyWorkflowKit.Runtime

open PyWorkflowKit.Core PyWorkflowKit.Domain PyWorkflowKit.States
open PyWorkflowKit.Persistence PyWorkflowKit.Executors Program

/-- The answers of the verifiers; every observation of a pass has its own. -/
abbrev Verifiers := TaskAttemptId → ExternalRunRef → Verification

/-- What durable evidence and verifiers say about an open task. -/
inductive Finding where
  | untouched
  | repair (attempt : TaskAttempt) (target : TaskRunStatus)
      (disposition : ReconciliationDisposition)
  | settle (attempt : TaskAttempt) (attemptTarget : TaskAttemptStatus)
      (target : TaskRunStatus) (disposition : ReconciliationDisposition)
  | stillRunning
  | manual
deriving DecidableEq

def Finding.disposition : Finding → ReconciliationDisposition
  | untouched => .noAction
  | repair _ _ disposition => disposition
  | settle _ _ _ disposition => disposition
  | stillRunning => .stillRunning
  | manual => .manualRequired

/-- The statuses that a conclusive external status gives attempt and task. -/
def conclusion : ExternalRunStatus →
    Option (TaskAttemptStatus × TaskRunStatus × ReconciliationDisposition)
  | .succeeded => some (.succeeded, .succeeded, .resolvedSucceeded)
  | .failed => some (.failed, .failed, .resolvedFailed)
  | .cancelled => some (.cancelled, .cancelled, .resolvedCancelled)
  | .running | .notFound | .unknown => none

/-- The statuses observed for the references of an attempt. -/
def observedStatuses (verifiers : Verifiers) (attemptId : TaskAttemptId)
    (refs : List ExternalRunRef) : List ExternalRunStatus :=
  (refs.map fun ref => (observation ref (verifiers attemptId ref)).status).dedup

/-- The finding about an attempt that is not terminal. -/
def attemptFinding (attempt : TaskAttempt) (statuses : List ExternalRunStatus) : Finding :=
  if .unknown ∈ statuses ∨ .notFound ∈ statuses then .manual
  else
    match statuses with
    | [.running] => .stillRunning
    | [status] =>
        match conclusion status with
        | some (attemptTarget, target, disposition) =>
            .settle attempt attemptTarget target disposition
        | none => .manual
    | _ => .manual

/-- The latest attempt of a task. -/
def latestAttempt (store : MemoryState) (taskRunId : TaskRunId) : Option TaskAttempt :=
  (store.listTaskAttempts taskRunId).getLast?

/-- The finding about the task with this id. -/
def finding (verifiers : Verifiers) (store : MemoryState) (taskRunId : TaskRunId) :
    Finding :=
  match latestAttempt store taskRunId with
  | none => .untouched
  | some attempt =>
      match repairTarget attempt.status with
      | some (target, disposition) => .repair attempt target disposition
      | none =>
          attemptFinding attempt (observedStatuses verifiers attempt.attemptId
            (store.listExternalRunRefs attempt.attemptId))

/-- A task whose finding is conclusive is settled by it. -/
def Finding.conclusive : Finding → Bool
  | repair .. | settle .. => true
  | untouched | stillRunning | manual => false

/-- The tables allow what the finding asks for. -/
def Finding.Legal (taskRun : TaskRun) : Finding → Prop
  | repair _ target _ => target ∈ taskRunTransitions taskRun.status
  | settle attempt attemptTarget target _ =>
      attemptTarget ∈ taskAttemptTransitions attempt.status ∧
        target ∈ taskRunTransitions taskRun.status
  | untouched | stillRunning | manual => True

/-- The store after the finding has been applied to the task. -/
def Finding.Applied (taskRun : TaskRun) (before after : MemoryState) : Finding → Prop
  | repair _ target _ => ∃ next at_, taskRun.SameIdentity next ∧ next.status = target ∧
      after = before.afterTaskRun taskRun.status next at_
  | settle attempt attemptTarget target _ => ∃ nextAttempt next at₁ at₂,
      attempt.SameIdentity nextAttempt ∧ nextAttempt.status = attemptTarget ∧
        taskRun.SameIdentity next ∧ next.status = target ∧
        after = (before.afterTaskAttempt attempt.status nextAttempt at₁).afterTaskRun
          taskRun.status next at₂
  | untouched | stillRunning | manual => after = before

/-- Verifiers give their answers, and the clock is read undisturbed. -/
structure Verified (contract : Contract Service Service.Answer World)
    (verifiers : Verifiers) : Prop extends Undisturbed contract where
  verifyQuiet : ∀ attemptId ref, contract.QuietAt (some (.verify attemptId ref))
  entersVerify : ∀ world attemptId ref, contract.enters world (.verify attemptId ref)
  answers : ∀ world attemptId ref answer,
    contract.allows world (.verify attemptId ref) answer → answer = verifiers attemptId ref
  writes : ∀ before after, contract.guarantee before after

/-- The clock may answer without a time zone. -/
def NaiveClock (contract : Contract Service Service.Answer World) : Prop :=
  ∃ world, contract.allows world .now none

theorem repairTarget_eq_none_iff (status : TaskAttemptStatus) :
    repairTarget status = none ↔ status.isTerminal = false := by
  cases status <;> simp [repairTarget, TaskAttemptStatus.isTerminal]

theorem terminal_of_repairTarget {status : TaskAttemptStatus} {target : TaskRunStatus}
    {disposition : ReconciliationDisposition}
    (hrepair : repairTarget status = some (target, disposition)) :
    target.isTerminal = true ∧ target ≠ .skipped ∧ target ≠ .blocked := by
  cases status <;> simp [repairTarget] at hrepair <;>
    (obtain ⟨rfl, -⟩ := hrepair; simp [TaskRunStatus.isTerminal])

theorem terminal_of_conclusion {status : ExternalRunStatus}
    {attemptTarget : TaskAttemptStatus} {target : TaskRunStatus}
    {disposition : ReconciliationDisposition}
    (hconclusion : conclusion status = some (attemptTarget, target, disposition)) :
    attemptTarget.isTerminal = true ∧ target.isTerminal = true ∧ target ≠ .skipped ∧
      target ≠ .blocked := by
  cases status <;> simp [conclusion] at hconclusion <;>
    (obtain ⟨rfl, rfl, -⟩ := hconclusion
     simp [TaskRunStatus.isTerminal, TaskAttemptStatus.isTerminal])

/-- How a procedure that settles one task ends, by what was found about it. -/
def Concludes {α : Type} (contract : Contract Service Service.Answer World)
    (found : Finding) (taskRun : TaskRun) (world : World) (reports : α → Prop) :
    Except PyError α → World → Prop
  | .ok value, after =>
      reports value ∧ found.Legal taskRun ∧
        found.Applied taskRun world.store after.store ∧ after.workers = world.workers
  | .error error, _ =>
      (NaiveClock contract ∧ found.conclusive = true) ∨
        (¬ found.Legal taskRun ∧ error.isStateMachineError = true)

/-- The latest attempt of a task is stored and belongs to it. -/
theorem mem_of_latestAttempt {store : MemoryState} {taskRunId : TaskRunId}
    {attempt : TaskAttempt} (hlatest : latestAttempt store taskRunId = some attempt) :
    attempt ∈ store.taskAttempts.rows ∧ attempt.taskRunId = taskRunId := by
  have hmem := List.mem_of_getLast? hlatest
  simpa [MemoryState.listTaskAttempts, MemoryState.attemptsOf] using hmem

section Rules

variable {contract : Contract Service Service.Answer World} {verifiers : Verifiers}
  (hverified : Verified contract verifiers)

include hverified

theorem meets_observeAll {world : World} (attemptId : TaskAttemptId)
    (refs : List ExternalRunRef)
    {post : Except PyError (List ExternalRunObservation) → World → Prop}
    (hpost : post (.ok (refs.map fun ref =>
      observation ref (verifiers attemptId ref))) world) :
    (mapEach refs (observe attemptId)).Meets contract post world := by
  refine (meets_mapEach (fun handled values current =>
    values = handled.map (fun ref => observation ref (verifiers attemptId ref)) ∧
      current = world) (fun _ _ => False) refs ?_ (fun _ _ hend => hend) ⟨rfl, rfl⟩).mono ?_
  · rintro handled ref rest values current - ⟨rfl, rfl⟩
    unfold observe
    rw [meets_bind]
    apply meets_ask_of_quiet (hverified.verifyQuiet attemptId ref)
      (hverified.entersVerify _ attemptId ref)
    intro answer hallows
    rw [hverified.answers _ attemptId ref answer hallows]
    simp
  · intro result after hresult
    cases result with
    | ok values =>
        obtain ⟨rfl, rfl⟩ := hresult
        exact hpost
    | error error => exact hresult.elim

theorem meets_resolveAttemptAndTask {world : World} {taskRun : TaskRun}
    {attempt : TaskAttempt} {attemptTarget : TaskAttemptStatus} {target : TaskRunStatus}
    (disposition : ReconciliationDisposition) {failure : Option FailureEvidence}
    (htask : world.store.taskRuns.find? taskRun.taskRunId = some taskRun)
    (hattempt : world.store.taskAttempts.find? attempt.attemptId = some attempt)
    (hopenTask : taskRun.status.isTerminal = false)
    (hopenAttempt : attempt.status.isTerminal = false)
    (hattemptTarget : attemptTarget.isTerminal = true)
    (htarget : target.isTerminal = true ∧ target ≠ .skipped ∧ target ≠ .blocked) :
    (resolveAttemptAndTask taskRun attempt attemptTarget target failure).Meets contract
      (Concludes contract (.settle attempt attemptTarget target disposition) taskRun
        world fun _ => True) world := by
  have hattemptNe : attempt.status ≠ attemptTarget := by
    rintro rfl
    simp [hattemptTarget] at hopenAttempt
  have htaskNe : taskRun.status ≠ target := by
    rintro rfl
    simp [htarget.1] at hopenTask
  have hcalm := hverified.toUndisturbed
  unfold resolveAttemptAndTask
  simp only [if_pos hattemptNe]
  rw [meets_bind]
  refine meets_transitionAttempt hcalm hattempt (fun hnaive error =>
    Or.inl ⟨⟨world, hnaive⟩, rfl⟩) (fun at₁ nextAttempt _ hnextAttempt =>
      ⟨hverified.writes _ _, ?_⟩) (fun hillegal error herror =>
    Or.inr ⟨fun hlegal => hillegal hlegal.1, herror⟩)
  obtain ⟨hallowedAttempt, hstatusAttempt, -, hidentityAttempt⟩ :=
    TaskAttempt.of_transition hnextAttempt
  rw [hands_ok, meets_bind]
  refine meets_read hcalm (Memory.run_getTaskRun (by simpa using htask)) ?_
  rw [hands_ok, if_pos htaskNe, meets_bind]
  refine meets_transitionTask hcalm (by simpa using htask) (by simp [htarget.2.1])
    htarget.2.2 (fun hnaive error => Or.inl ⟨⟨_, hnaive⟩, rfl⟩) (fun at₂ next _ hnext =>
      ⟨hverified.writes _ _, ?_⟩) (fun hillegal error herror =>
    Or.inr ⟨fun hlegal => hillegal hlegal.2, herror⟩)
  obtain ⟨hallowed, hstatus, -, hidentity, -⟩ := TaskRun.of_transition hnext
  exact ⟨trivial, ⟨hallowedAttempt, hallowed⟩, ⟨nextAttempt, next, at₁.instant, at₂.instant,
    hidentityAttempt, hstatusAttempt, hidentity, hstatus, rfl⟩, rfl⟩

theorem meets_reconciledFailure {world : World} {taskRun : TaskRun}
    {attempt : TaskAttempt} {externalRef : ExternalRunRef} {cancelled : Bool}
    {run : WorkflowRun}
    (hrun : world.store.workflowRuns.find? taskRun.workflowRunId = some run)
    {post : Except PyError FailureEvidence → World → Prop}
    (hpost : ∀ failure, post (.ok failure) world)
    (hnaive : NaiveClock contract → ∀ error, post (.error error) world) :
    (reconciledFailure taskRun attempt externalRef cancelled).Meets contract post
      world := by
  have hcalm := hverified.toUndisturbed
  unfold reconciledFailure
  rw [meets_bind]
  refine meets_read hcalm (Memory.run_getWorkflowRun hrun) ?_
  rw [hands_ok, meets_bind]
  exact meets_now hcalm (fun at_ _ => hpost _) fun hclock => hnaive ⟨world, hclock⟩

/-- The conclusive branches of `applyObservations` settle the attempt and the
task; the others change nothing. -/
theorem meets_applyObservations {world : World} {taskRun : TaskRun}
    {attempt : TaskAttempt} (externalRef : ExternalRunRef)
    {observations : List ExternalRunObservation} {run : WorkflowRun}
    (hrun : world.store.workflowRuns.find? taskRun.workflowRunId = some run)
    (htask : world.store.taskRuns.find? taskRun.taskRunId = some taskRun)
    (hattempt : world.store.taskAttempts.find? attempt.attemptId = some attempt)
    (hopenTask : taskRun.status.isTerminal = false)
    (hopenAttempt : attempt.status.isTerminal = false) :
    (applyObservations taskRun attempt externalRef observations).Meets contract
      (Concludes contract (attemptFinding attempt
          (observations.map ExternalRunObservation.status).dedup) taskRun world
        fun value => value.1 = (attemptFinding attempt
          (observations.map ExternalRunObservation.status).dedup).disposition)
      world := by
  unfold applyObservations
  simp only
  generalize (observations.map ExternalRunObservation.status).dedup = statuses
  by_cases hopen : .unknown ∈ statuses ∨ .notFound ∈ statuses
  · have hfound : attemptFinding attempt statuses = .manual := if_pos hopen
    rw [if_pos hopen, hfound]
    exact ⟨rfl, trivial, rfl, rfl⟩
  rw [if_neg hopen]
  have hsettle : ∀ status {attemptTarget target disposition failure},
      conclusion status = some (attemptTarget, target, disposition) →
      (resolveAttemptAndTask taskRun attempt attemptTarget target failure >>= fun _ =>
        pure (disposition, "provider_truth_applied_to_same_task_attempt")).Meets contract
          (Concludes contract (.settle attempt attemptTarget target disposition) taskRun
            world fun value => value.1 = disposition) world := by
    intro status attemptTarget target disposition failure hconclusion
    obtain ⟨hattemptTarget, htarget⟩ := terminal_of_conclusion hconclusion
    refine (meets_resolveAttemptAndTask hverified disposition htask hattempt hopenTask
      hopenAttempt hattemptTarget htarget).bind ?_ ?_
    · rintro - after ⟨-, hlegal, happlied, hworkers⟩
      exact ⟨rfl, hlegal, happlied, hworkers⟩
    · intro error after herror
      exact herror
  unfold attemptFinding
  rw [if_neg hopen]
  match statuses with
  | [] => exact ⟨rfl, trivial, rfl, rfl⟩
  | [.running] => exact ⟨rfl, trivial, rfl, rfl⟩
  | [.unknown] => exact ⟨rfl, trivial, rfl, rfl⟩
  | [.notFound] => exact ⟨rfl, trivial, rfl, rfl⟩
  | [.succeeded] => exact hsettle .succeeded rfl
  | [.failed] =>
      simp only
      rw [meets_bind]
      exact meets_reconciledFailure hverified hrun
        (fun failure => hsettle .failed rfl) fun hnaive _ => Or.inl ⟨hnaive, rfl⟩
  | [.cancelled] =>
      simp only
      rw [meets_bind]
      exact meets_reconciledFailure hverified hrun
        (fun failure => hsettle .cancelled rfl) fun hnaive _ => Or.inl ⟨hnaive, rfl⟩
  | first :: second :: rest => cases first <;> exact ⟨rfl, trivial, rfl, rfl⟩

/-- `_reconcile_task` applies exactly what is found about the task. -/
theorem meets_reconcileTask {world : World} {taskRun : TaskRun} {run : WorkflowRun}
    (hrun : world.store.workflowRuns.find? taskRun.workflowRunId = some run)
    (htask : world.store.taskRuns.find? taskRun.taskRunId = some taskRun)
    (hopen : taskRun.status.isTerminal = false) :
    (reconcileTask taskRun.taskRunId).Meets contract
      (Concludes contract (finding verifiers world.store taskRun.taskRunId) taskRun world
        fun item => item.disposition =
          (finding verifiers world.store taskRun.taskRunId).disposition) world := by
  have hcalm := hverified.toUndisturbed
  unfold reconcileTask
  rw [meets_bind]
  refine meets_read hcalm (Memory.run_getTaskRun htask) ?_
  rw [hands_ok, meets_bind]
  refine meets_query hcalm ?_
  rw [hands_ok]
  have hlast : (world.store.listTaskAttempts taskRun.taskRunId).getLast? =
      latestAttempt world.store taskRun.taskRunId := rfl
  rw [hlast]
  unfold finding
  cases hlatest : latestAttempt world.store taskRun.taskRunId with
  | none => exact ⟨rfl, trivial, rfl, rfl⟩
  | some attempt =>
      simp only
      have hattempt : world.store.taskAttempts.find? attempt.attemptId = some attempt :=
        Table.find?_of_mem _ (mem_of_latestAttempt hlatest).1
      cases hrepair : repairTarget attempt.status with
      | some repair =>
          obtain ⟨target, disposition⟩ := repair
          have hterminal : attempt.status.isTerminal = true := by
            by_contra hnot
            have hnone := (repairTarget_eq_none_iff attempt.status).mpr (by simpa using hnot)
            rw [hnone] at hrepair
            cases hrepair
          obtain ⟨htargetTerminal, hskip, hblock⟩ := terminal_of_repairTarget hrepair
          rw [if_pos hterminal, repairTaskFromTerminalAttempt, hrepair, meets_bind]
          simp only
          rw [meets_bind]
          refine meets_transitionTask hcalm htask (by simp [hskip]) hblock
            (fun hnaive error => Or.inl ⟨⟨world, hnaive⟩, rfl⟩) (fun at_ next _ hnext =>
              ⟨hverified.writes _ _, ?_⟩) fun hillegal error herror =>
                Or.inr ⟨hillegal, herror⟩
          obtain ⟨hallowed, hstatus, -, hidentity, -⟩ := TaskRun.of_transition hnext
          exact ⟨rfl, hallowed, ⟨next, at_.instant, hidentity, hstatus, rfl⟩, rfl⟩
      | none =>
          have hopenAttempt := (repairTarget_eq_none_iff attempt.status).mp hrepair
          rw [if_neg (by simp [hopenAttempt]), meets_bind]
          refine meets_query hcalm ?_
          rw [hands_ok]
          cases hrefs : world.store.listExternalRunRefs attempt.attemptId with
          | nil => exact ⟨rfl, trivial, rfl, rfl⟩
          | cons externalRef others =>
              simp only
              rw [meets_bind]
              refine meets_observeAll hverified attempt.attemptId _ ?_
              rw [hands_ok]
              refine (meets_applyObservations hverified externalRef hrun htask hattempt
                hopen hopenAttempt).bind ?_ ?_
              · rintro value after ⟨hvalue, happlied⟩
                refine ⟨?_, ?_⟩
                · rw [hvalue, List.map_map]
                  rfl
                · rw [List.map_map] at happlied
                  exact happlied
              · intro error after herror
                rw [List.map_map] at herror
                exact herror

end Rules

end PyWorkflowKit.Runtime
