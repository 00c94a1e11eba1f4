import PyWorkflowKit.Runtime.Conservative
import PyWorkflowKit.Runtime.Outcomes

/-!
# When a pass is rejected and what it leaves open

The verdict of a pass as a function of the state before it: when the tables lack an edge that
the evidence asks for, and when a run ends before its tasks.
-/

namespace PyWorkflowKit.Runtime

open PyWorkflowKit.Core PyWorkflowKit.Domain PyWorkflowKit.States
open PyWorkflowKit.Persistence PyWorkflowKit.Executors Program

/-- Nobody interferes, the verifiers answer as given and the clock knows its time zone. -/
def timely (verifiers : Verifiers) : Surroundings Service Service.Answer World where
  drift _ before after := before = after
  allows _ service answer :=
    match service, answer with
    | .verify attemptId ref, verification => verification = verifiers attemptId ref
    | .now, reading => reading ≠ none
    | _, _ => True

def timelyContract (verifiers : Verifiers) : Contract Service Service.Answer World where
  toSurroundings := timely verifiers
  guarantee _ _ := True
  enters _ _ := True

theorem verified_timely (verifiers : Verifiers) :
    Verified (timelyContract verifiers) verifiers where
  step _ _ hdrift := hdrift
  clock _ _ hdrift := hdrift
  entersClock _ := trivial
  idle _ := trivial
  verifyQuiet _ _ _ _ hdrift := hdrift
  entersVerify _ _ _ := trivial
  answers _ _ _ _ hallows := hallows
  writes _ _ := trivial

theorem not_naiveClock_timely (verifiers : Verifiers) :
    ¬NaiveClock (timelyContract verifiers) := by
  rintro ⟨world, hallows⟩
  exact hallows rfl

/-- The status that a pass gives a task run. -/
def settledStatus (verifiers : Verifiers) (store : MemoryState) (taskRun : TaskRun) :
    TaskRunStatus :=
  if taskRun.status.isTerminal then taskRun.status
  else
    match finding verifiers store taskRun.taskRunId with
    | .repair _ target _ | .settle _ _ target _ => target
    | .untouched | .stillRunning | .manual => taskRun.status

/-- The verdict on a run once its tasks are settled. -/
def verdictAfter (verifiers : Verifiers) (store : MemoryState) (run : WorkflowRun) :
    Option WorkflowRunStatus :=
  workflowVerdict run.status
    ((store.listTaskRuns run.runId).map (settledStatus verifiers store))

section Settled

variable {verifiers : Verifiers} {runId : WorkflowRunId} {before middle : World}

/-- The verdict depends on which statuses there are. -/
theorem workflowVerdict_congr {status : WorkflowRunStatus} {first second : List TaskRunStatus}
    (hsame : ∀ taskStatus, taskStatus ∈ first ↔ taskStatus ∈ second) :
    workflowVerdict status first = workflowVerdict status second := by
  have hnil : first ≠ [] ↔ second ≠ [] := by
    rw [ne_eq, ne_eq, List.eq_nil_iff_forall_not_mem, List.eq_nil_iff_forall_not_mem]
    simp only [hsame]
  unfold workflowVerdict
  simp only [hsame, hnil]

/-- Every task of the run has the status that its finding gives it. -/
theorem TasksSettled.row
    (hsettled : TasksSettled verifiers (openTasks before.store runId) before middle)
    {taskRun : TaskRun} (hmem : taskRun ∈ before.store.taskRuns.rows)
    (howner : taskRun.workflowRunId = runId) :
    ∃ next, middle.store.taskRuns.find? taskRun.taskRunId = some next ∧
      taskRun.SameIdentity next ∧
      next.status = settledStatus verifiers before.store taskRun := by
  have hfind := Table.find?_of_mem _ hmem
  have hkept : ∀ status, status = taskRun.status →
      SameRows before.store middle.store taskRun.taskRunId →
      ∃ next, middle.store.taskRuns.find? taskRun.taskRunId = some next ∧
        taskRun.SameIdentity next ∧ next.status = status := by
    intro status hstatus hsame
    exact ⟨taskRun, hsame.taskRun.trans hfind, TaskRun.sameIdentity_refl taskRun, hstatus.symm⟩
  unfold settledStatus
  by_cases hterminal : taskRun.status.isTerminal = true
  · rw [if_pos hterminal]
    apply hkept _ rfl
    apply hsettled.others
    intro hopen
    obtain ⟨other, hother, hid⟩ := List.mem_map.mp hopen
    obtain ⟨hrow, -, hstatus⟩ := mem_openTasks.mp hother
    obtain rfl : other = taskRun := before.store.taskRuns.eq_of_mem hrow hmem hid
    rw [hstatus] at hterminal
    cases hterminal
  · rw [if_neg hterminal]
    have hopen : taskRun ∈ openTasks before.store runId :=
      mem_openTasks.mpr ⟨hmem, howner, by simpa using hterminal⟩
    have hrows := hsettled.settled taskRun hopen
    cases hfound : finding verifiers before.store taskRun.taskRunId with
    | untouched => exact hkept _ rfl (hrows.same (by rw [hfound]; rfl))
    | stillRunning => exact hkept _ rfl (hrows.same (by rw [hfound]; rfl))
    | manual => exact hkept _ rfl (hrows.same (by rw [hfound]; rfl))
    | repair attempt target disposition =>
        rw [hfound] at hrows
        obtain ⟨next, hidentity, hstatus, hnext, -⟩ := hrows
        exact ⟨next, hnext, hidentity, hstatus⟩
    | settle attempt attemptTarget target disposition =>
        rw [hfound] at hrows
        obtain ⟨-, next, -, -, hidentity, hstatus, hnext, -⟩ := hrows
        exact ⟨next, hnext, hidentity, hstatus⟩

/-- A pass adds no task to the run. -/
theorem TasksSettled.row_before
    (hsettled : TasksSettled verifiers (openTasks before.store runId) before middle)
    {next : TaskRun} (hmem : next ∈ middle.store.taskRuns.rows)
    (howner : next.workflowRunId = runId) :
    ∃ taskRun ∈ before.store.taskRuns.rows, taskRun.workflowRunId = runId ∧
      taskRun.taskRunId = next.taskRunId := by
  have hfind := Table.find?_of_mem _ hmem
  by_cases hopen : next.taskRunId ∈ (openTasks before.store runId).map TaskRun.taskRunId
  · obtain ⟨taskRun, htaskRun, hid⟩ := List.mem_map.mp hopen
    obtain ⟨hrow, hrun, -⟩ := mem_openTasks.mp htaskRun
    exact ⟨taskRun, hrow, hrun, hid⟩
  · rw [(hsettled.others _ hopen).taskRun] at hfind
    exact ⟨next, Table.mem_of_find? hfind, howner, rfl⟩

/-- The verdict on a run whose tasks are settled is known before. -/
theorem TasksSettled.verdict {run : WorkflowRun}
    (hsettled : TasksSettled verifiers (openTasks before.store run.runId) before middle) :
    workflowVerdict run.status ((middle.store.listTaskRuns run.runId).map TaskRun.status) =
      verdictAfter verifiers before.store run := by
  have hlisted : ∀ (store : MemoryState) (taskRun : TaskRun),
      taskRun ∈ store.listTaskRuns run.runId ↔
        taskRun ∈ store.taskRuns.rows ∧ taskRun.workflowRunId = run.runId := by
    intro store taskRun
    simp [MemoryState.listTaskRuns]
  apply workflowVerdict_congr
  intro taskStatus
  constructor
  · intro hmem
    obtain ⟨next, hnext, rfl⟩ := List.mem_map.mp hmem
    obtain ⟨hrow, howner⟩ := (hlisted _ _).mp hnext
    obtain ⟨taskRun, htask, hrun, hid⟩ := hsettled.row_before hrow howner
    obtain ⟨other, hother, -, hstatus⟩ := hsettled.row htask hrun
    have hfind := Table.find?_of_mem _ hrow
    rw [hid, hfind] at hother
    rw [Option.some.inj hother, hstatus]
    exact List.mem_map_of_mem ((hlisted _ _).mpr ⟨htask, hrun⟩)
  · intro hmem
    obtain ⟨taskRun, htask, rfl⟩ := List.mem_map.mp hmem
    obtain ⟨hrow, howner⟩ := (hlisted _ _).mp htask
    obtain ⟨next, hnext, hidentity, hstatus⟩ := hsettled.row hrow howner
    rw [← hstatus]
    exact List.mem_map_of_mem ((hlisted _ _).mpr
      ⟨Table.mem_of_find? hnext, hidentity.2.1.symm.trans howner⟩)

end Settled

/-- The evidence about a task asks for a transition that the tables lack. -/
def Finding.Unattainable (taskRun : TaskRun) : Finding → Prop
  | repair _ target _ => notStarted taskRun.status = true ∧ target ≠ .cancelled
  | settle attempt attemptTarget target _ =>
      (attempt.status = .pending ∧ attemptTarget ≠ .cancelled) ∨
        (attempt.status = .starting ∧ attemptTarget ≠ .failed) ∨
        (attempt.status = .running ∧ attemptTarget = .cancelled) ∨
        (notStarted taskRun.status = true ∧ target ≠ .cancelled)
  | untouched | stillRunning | manual => False

/-- A verdict that a run with this status cannot take. -/
def Contrary (status target : WorkflowRunStatus) : Prop :=
  status = .pending ∨ (status = .running ∧ target = .cancelled) ∨
    (status = .cancellationRequested ∧ target ≠ .cancelled)

/-- A pass over the run is rejected: the evidence about a task, or the verdict on the run once
its tasks are settled, cannot be taken. -/
def Rejects (verifiers : Verifiers) (store : MemoryState) (run : WorkflowRun) : Prop :=
  run.status.isTerminal = false ∧
    ((∃ taskRun ∈ openTasks store run.runId,
        (finding verifiers store taskRun.taskRunId).Unattainable taskRun) ∨
      (¬Unresolved verifiers store run.runId ∧
        ∃ target ∈ verdictAfter verifiers store run, Contrary run.status target))

section Rejected

variable {verifiers : Verifiers} {store : MemoryState} {run : WorkflowRun} {before after : World}

theorem legal_iff_of_open {taskRun : TaskRun} (hopen : taskRun.status.isTerminal = false) :
    (finding verifiers store taskRun.taskRunId).Legal taskRun ↔
      ¬(finding verifiers store taskRun.taskRunId).Unattainable taskRun := by
  have htask : ∀ target : TaskRunStatus,
      target = .succeeded ∨ target = .failed ∨ target = .cancelled ∨ target = .timedOut →
      (target ∈ taskRunTransitions taskRun.status ↔
        ¬(notStarted taskRun.status = true ∧ target ≠ .cancelled)) := by
    intro target htarget
    revert hopen
    rcases htarget with rfl | rfl | rfl | rfl <;> cases taskRun.status <;> decide
  cases hfound : finding verifiers store taskRun.taskRunId with
  | untouched => simp [Finding.Legal, Finding.Unattainable]
  | stillRunning => simp [Finding.Legal, Finding.Unattainable]
  | manual => simp [Finding.Legal, Finding.Unattainable]
  | repair attempt target disposition =>
      apply htask
      have hrepair := (finding_eq_repair hfound).2
      cases hattempt : attempt.status <;> rw [hattempt] at hrepair <;>
        simp [repairTarget] at hrepair <;> obtain ⟨rfl, -⟩ := hrepair <;> simp
  | settle attempt attemptTarget target disposition =>
      obtain ⟨-, hattempt, -, status, hconclusion, -⟩ := finding_eq_settle hfound
      have hattempts : attemptTarget ∈ taskAttemptTransitions attempt.status ↔
          ¬((attempt.status = .pending ∧ attemptTarget ≠ .cancelled) ∨
            (attempt.status = .starting ∧ attemptTarget ≠ .failed) ∨
            (attempt.status = .running ∧ attemptTarget = .cancelled)) := by
        revert hattempt
        cases status <;> simp [conclusion] at hconclusion <;>
          obtain ⟨rfl, -, -⟩ := hconclusion <;> cases attempt.status <;> decide
      have htarget : target = .succeeded ∨ target = .failed ∨ target = .cancelled ∨
          target = .timedOut := by
        cases status <;> simp [conclusion] at hconclusion <;>
          obtain ⟨-, rfl, -⟩ := hconclusion <;> simp
      simp only [Finding.Legal, Finding.Unattainable]
      rw [hattempts, htask target htarget, ← not_or, or_assoc, or_assoc]

theorem mem_workflowTransitions_iff {target : WorkflowRunStatus}
    {statuses : List TaskRunStatus} (hopen : run.status.isTerminal = false)
    (hverdict : workflowVerdict run.status statuses = some target) :
    target ∈ workflowTransitions run.status ↔ ¬Contrary run.status target := by
  have htarget : target = .failed ∨ target = .timedOut ∨ target = .cancelled ∨
      target = .succeeded ∨ (target = .running ∧ run.status = .unknownOutcome) := by
    unfold workflowVerdict at hverdict
    split at hverdict
    · cases hverdict
    split at hverdict
    · exact Or.inl (Option.some.inj hverdict).symm
    split at hverdict
    · exact Or.inr (Or.inl (Option.some.inj hverdict).symm)
    split at hverdict
    · exact Or.inr (Or.inr (Or.inl (Option.some.inj hverdict).symm))
    split at hverdict
    · exact Or.inr (Or.inr (Or.inr (Or.inl (Option.some.inj hverdict).symm)))
    split at hverdict
    · next hstatus =>
      exact Or.inr (Or.inr (Or.inr (Or.inr ⟨(Option.some.inj hverdict).symm, hstatus⟩)))
    · cases hverdict
  unfold Contrary
  rcases htarget with rfl | rfl | rfl | rfl | ⟨rfl, hstatus⟩
  all_goals revert hopen
  · cases run.status <;> decide
  · cases run.status <;> decide
  · cases run.status <;> decide
  · cases run.status <;> decide
  · rw [hstatus]
    decide

theorem rejects_of_refused (hrefused : Refused verifiers run before) :
    Rejects verifiers before.store run := by
  obtain ⟨hopen, ⟨taskRun, hmem, hillegal⟩ |
    ⟨hleft, middle, hsettled, target, hverdict, hillegal⟩⟩ := hrefused
  · refine ⟨hopen, Or.inl ⟨taskRun, hmem, ?_⟩⟩
    rw [legal_iff_of_open (mem_openTasks.mp hmem).2.2, not_not] at hillegal
    exact hillegal
  · rw [mem_workflowTransitions_iff hopen hverdict, not_not] at hillegal
    rw [hsettled.verdict] at hverdict
    exact ⟨hopen, Or.inr ⟨hleft, target, hverdict, hillegal⟩⟩

theorem not_rejects_of_passed (hpassed : Passed verifiers run before after) :
    ¬Rejects verifiers before.store run := by
  rintro ⟨hopen, hrejects⟩
  unfold Passed at hpassed
  rw [if_neg (by simp [hopen])] at hpassed
  obtain ⟨middle, hsettled, -, hresolved⟩ := hpassed
  rcases hrejects with ⟨taskRun, hmem, hunattainable⟩ | ⟨hleft, target, hverdict, hcontrary⟩
  · exact (legal_iff_of_open (mem_openTasks.mp hmem).2.2).mp (hsettled.legal taskRun hmem)
      hunattainable
  · have hcascade := hresolved hleft
    have hmiddle : workflowVerdict run.status
        ((middle.store.listTaskRuns run.runId).map TaskRun.status) = some target := by
      rw [hsettled.verdict]
      exact hverdict
    simp only [RunSettled, hmiddle] at hcascade
    exact (mem_workflowTransitions_iff hopen hmiddle).mp hcascade.1 hcontrary

end Rejected

section Frame

variable {verifiers : Verifiers} {α β : Type}

/-- The procedure leaves the rows of workflow runs. -/
def KeepsRuns (verifiers : Verifiers) (procedure : Procedure α) : Prop :=
  ∀ world, procedure.Meets (timelyContract verifiers)
    (fun _ after => after.store.workflowRuns = world.store.workflowRuns) world

theorem keepsRuns_done (result : Except PyError α) : KeepsRuns verifiers (.done result) :=
  fun _ => rfl

theorem KeepsRuns.bind {first : Procedure α} {next : α → Procedure β}
    (hfirst : KeepsRuns verifiers first) (hnext : ∀ value, KeepsRuns verifiers (next value)) :
    KeepsRuns verifiers (first >>= next) := by
  intro world
  apply (hfirst world).bind
  · intro value middle hmiddle
    apply (hnext value middle).mono
    intro result after hafter
    rw [hafter, hmiddle]
  · exact fun _ _ hmiddle => hmiddle

theorem keepsRuns_ask (service : Service) : KeepsRuns verifiers (Program.ask service) := by
  refine fun world => ⟨trivial, fun drifted hdrift answer hallows => ?_⟩
  have hsame : world = drifted := hdrift
  rw [hsame]
  exact keepsRuns_done _ drifted

theorem keepsRuns_onStore {action : MemoryAction α}
    (hkept : ∀ store, (action.run store).2.workflowRuns = store.workflowRuns) :
    KeepsRuns verifiers (onStore action) := by
  intro world
  unfold onStore
  rw [meets_atomic]
  intro drifted hdrift
  have hsame : world = drifted := hdrift
  rw [hsame]
  exact ⟨trivial, hkept drifted.store⟩

theorem keepsRuns_query (read : MemoryState → α) : KeepsRuns verifiers (query read) :=
  keepsRuns_onStore fun store => by rw [Action.run_read]

theorem keepsRuns_getTaskRun (taskRunId : TaskRunId) :
    KeepsRuns verifiers (onStore (Memory.getTaskRun taskRunId)) := by
  apply keepsRuns_onStore
  intro store
  rcases Memory.getTaskRun_cases taskRunId store with ⟨_, -, hrun⟩ | ⟨-, hrun⟩ <;> rw [hrun]

theorem keepsRuns_getWorkflowRun (runId : WorkflowRunId) :
    KeepsRuns verifiers (onStore (Memory.getWorkflowRun runId)) := by
  apply keepsRuns_onStore
  intro store
  rcases Memory.getWorkflowRun_cases runId store with ⟨_, -, hrun⟩ | ⟨-, hrun⟩ <;> rw [hrun]

theorem keepsRuns_now : KeepsRuns verifiers now := by
  apply (keepsRuns_ask Service.now).bind
  intro reading
  cases reading <;> exact keepsRuns_done _

theorem keepsRuns_transitionTask (taskRun : TaskRun) (target : TaskRunStatus)
    (skipReason : Option SkipReason) (failure : Option FailureEvidence) :
    KeepsRuns verifiers (transitionTask taskRun target skipReason failure) := by
  apply keepsRuns_now.bind
  intro at_
  apply (keepsRuns_done _).bind
  intro next
  have hupdate : ∀ store, ((Memory.updateTaskRun next taskRun.status
      (some (.aware at_.instant))).run store).2.workflowRuns = store.workflowRuns := by
    intro store
    have haware : some (Timestamp.aware at_.instant) ≠ some .naive := by simp
    rcases Memory.updateTaskRun_cases next taskRun.status haware store with
      ⟨_, _, -, -, -, hrun⟩ | ⟨_, hrun⟩
    · rw [hrun, MemoryState.workflowRuns_afterTaskRun]
    · rw [hrun]
  exact (keepsRuns_onStore hupdate).bind fun _ => keepsRuns_done _

theorem keepsRuns_transitionAttempt (attempt : TaskAttempt) (target : TaskAttemptStatus)
    (failure : Option FailureEvidence) :
    KeepsRuns verifiers (transitionAttempt attempt target failure) := by
  apply keepsRuns_now.bind
  intro at_
  apply (keepsRuns_done _).bind
  intro next
  have hupdate : ∀ store, ((Memory.updateTaskAttempt next attempt.status
      (some (.aware at_.instant))).run store).2.workflowRuns = store.workflowRuns := by
    intro store
    have haware : some (Timestamp.aware at_.instant) ≠ some .naive := by simp
    rcases Memory.updateTaskAttempt_cases next attempt.status haware store with
      ⟨_, _, -, -, -, hrun⟩ | ⟨_, hrun⟩
    · rw [hrun, MemoryState.workflowRuns_afterTaskAttempt]
    · rw [hrun]
  exact (keepsRuns_onStore hupdate).bind fun _ => keepsRuns_done _

theorem keepsRuns_mapEach {ι : Type} {body : ι → Procedure α}
    (hbody : ∀ item, KeepsRuns verifiers (body item)) (items : List ι) :
    KeepsRuns verifiers (Program.mapEach items body) := by
  induction items with
  | nil => exact keepsRuns_done _
  | cons item rest ih => exact (hbody item).bind fun _ => ih.bind fun _ => keepsRuns_done _

theorem keepsRuns_resolveAttemptAndTask (taskRun : TaskRun) (attempt : TaskAttempt)
    (attemptStatus : TaskAttemptStatus) (taskStatus : TaskRunStatus)
    (failure : Option FailureEvidence) :
    KeepsRuns verifiers
      (resolveAttemptAndTask taskRun attempt attemptStatus taskStatus failure) := by
  have hrest : KeepsRuns verifiers (do
      let taskRun ← onStore (Memory.getTaskRun taskRun.taskRunId)
      if taskRun.status ≠ taskStatus then
        let _ ← transitionTask taskRun taskStatus none failure) := by
    apply (keepsRuns_getTaskRun _).bind
    intro current
    split
    · exact (keepsRuns_transitionTask _ _ _ _).bind fun _ => keepsRuns_done _
    · exact keepsRuns_done _
  unfold resolveAttemptAndTask
  split
  · exact (keepsRuns_transitionAttempt _ _ _).bind fun _ => hrest
  · exact hrest

theorem keepsRuns_reconciledFailure (taskRun : TaskRun) (attempt : TaskAttempt)
    (externalRef : ExternalRunRef) (cancelled : Bool) :
    KeepsRuns verifiers (reconciledFailure taskRun attempt externalRef cancelled) :=
  (keepsRuns_getWorkflowRun _).bind fun _ => keepsRuns_now.bind fun _ => keepsRuns_done _

theorem keepsRuns_reconcileTask (taskRunId : TaskRunId) :
    KeepsRuns verifiers (reconcileTask taskRunId) := by
  apply (keepsRuns_getTaskRun taskRunId).bind
  intro taskRun
  apply (keepsRuns_query _).bind
  intro attempts
  split
  · exact keepsRuns_done _
  split
  · refine KeepsRuns.bind ?_ fun _ => keepsRuns_done _
    unfold repairTaskFromTerminalAttempt
    split
    · exact keepsRuns_done _
    · exact (keepsRuns_transitionTask _ _ _ _).bind fun _ => keepsRuns_done _
  · apply (keepsRuns_query _).bind
    intro refs
    split
    · exact keepsRuns_done _
    · refine (keepsRuns_mapEach (fun ref => (keepsRuns_ask _).bind fun _ => keepsRuns_done _)
        _).bind fun observations => KeepsRuns.bind ?_ fun _ => keepsRuns_done _
      unfold applyObservations
      dsimp only
      split
      · exact keepsRuns_done _
      · split
        · exact keepsRuns_done _
        · exact (keepsRuns_resolveAttemptAndTask _ _ _ _ _).bind fun _ => keepsRuns_done _
        · exact (keepsRuns_reconciledFailure _ _ _ _).bind fun _ =>
            (keepsRuns_resolveAttemptAndTask _ _ _ _ _).bind fun _ => keepsRuns_done _
        · exact (keepsRuns_reconciledFailure _ _ _ _).bind fun _ =>
            (keepsRuns_resolveAttemptAndTask _ _ _ _ _).bind fun _ => keepsRuns_done _
        · exact keepsRuns_done _

end Frame

/-- A pass should come to a report, and no attempt should end in it before its task run. -/
structure Repairs (result : Except PyError ReconciliationReport) (before after : MemoryState) :
    Prop where
  reported : ∃ report, result = .ok report
  closed : ∀ attempt ∈ before.taskAttempts.rows, attempt.status.isTerminal = false →
    ∀ next, after.taskAttempts.find? attempt.attemptId = some next →
      next.status.isTerminal = true →
      ∀ taskRun, after.taskRuns.find? next.taskRunId = some taskRun →
        taskRun.status.isTerminal = true

/-- The run has ended and one of its task runs has not. -/
def EndsOpen (store : MemoryState) (runId : WorkflowRunId) : Prop :=
  ∃ run, store.workflowRuns.find? runId = some run ∧ run.status.isTerminal = true ∧
    ∃ taskRun ∈ store.taskRuns.rows, taskRun.workflowRunId = runId ∧
      taskRun.status.isTerminal = false

/-- A pass leaves the run ended before one of its tasks: it had ended so before, or the verdict
ends it although a task was never attempted. -/
def LeavesBehind (verifiers : Verifiers) (store : MemoryState) (run : WorkflowRun) : Prop :=
  (run.status.isTerminal = true ∧ ∃ taskRun ∈ store.taskRuns.rows,
      taskRun.workflowRunId = run.runId ∧ taskRun.status.isTerminal = false) ∨
    (run.status.isTerminal = false ∧ ¬Rejects verifiers store run ∧
      ¬Unresolved verifiers store run.runId ∧
      (∃ taskRun ∈ openTasks store run.runId, latestAttempt store taskRun.taskRunId = none) ∧
      ∃ target ∈ verdictAfter verifiers store run, target.isTerminal = true)

section Passes

variable {verifiers : Verifiers} {run : WorkflowRun} {before after : World}
  {result : Except PyError ReconciliationReport}

theorem closed_of_passed (hpassed : Passed verifiers run before after)
    {attempt next : TaskAttempt} {taskRun : TaskRun}
    (hmem : attempt ∈ before.store.taskAttempts.rows)
    (hopen : attempt.status.isTerminal = false)
    (hnext : after.store.taskAttempts.find? attempt.attemptId = some next)
    (hended : next.status.isTerminal = true)
    (htask : after.store.taskRuns.find? next.taskRunId = some taskRun) :
    taskRun.status.isTerminal = true := by
  have heffect := hpassed.effect
  have hattempt : attempt ∈ before.store.attemptsOf attempt.taskRunId := by
    simpa [MemoryState.attemptsOf] using hmem
  have hkeys := heffect.attempts attempt.taskRunId
  have hkey : (attempt.attemptId, attempt.attemptNumber) ∈
      (after.store.attemptsOf attempt.taskRunId).map fun other =>
        (other.attemptId, other.attemptNumber) := by
    rw [hkeys]
    exact List.mem_map_of_mem (f := fun other : TaskAttempt =>
      (other.attemptId, other.attemptNumber)) hattempt
  obtain ⟨other, hother, hid⟩ := List.mem_map.mp hkey
  have hsame : other = next := by
    apply after.store.taskAttempts.eq_of_mem (List.mem_of_mem_filter hother)
      (Table.mem_of_find? hnext)
    rw [Table.key_of_find? hnext]
    exact congrArg Prod.fst hid
  subst hsame
  have howner : other.taskRunId = attempt.taskRunId := by
    simpa [MemoryState.attemptsOf] using (List.mem_filter.mp hother).2
  rw [howner] at htask
  rcases heffect.tasks attempt.taskRunId with hrows | ⟨owner, -, howned, hconclusive, hrows⟩
  · rw [hrows.attempts] at hother
    have hkept : other = attempt :=
      before.store.taskAttempts.eq_of_mem (List.mem_of_mem_filter hother) hmem
        (congrArg Prod.fst hid)
    rw [hkept, hopen] at hended
    cases hended
  · rw [← howned] at hconclusive hrows htask
    exact terminal_of_settled rfl hconclusive hrows htask

/-- The run is as it was when a pass fails. -/
theorem meets_reconcile_error (verifiers : Verifiers)
    (hrun : before.store.workflowRuns.find? run.runId = some run) :
    (reconcile run.runId).Meets (timelyContract verifiers)
      (Ends (fun _ _ => True)
        fun _ after => after.store.workflowRuns.find? run.runId = some run) before := by
  have hverified := verified_timely verifiers
  have hcalm := hverified.toUndisturbed
  have hlast : ∀ {α : Type} (world : World) (next : WorkflowRun → α),
      (∃ last, world.store.workflowRuns.find? run.runId = some last) →
      (onStore (Memory.getWorkflowRun run.runId) >>= fun last => pure (next last)).Meets
        (timelyContract verifiers) (Ends (fun _ _ => True)
          fun _ after => after.store.workflowRuns.find? run.runId = some run) world := by
    rintro α world next ⟨last, hfound⟩
    rw [meets_bind]
    exact meets_read hcalm (Memory.run_getWorkflowRun hfound) trivial
  unfold reconcile
  rw [meets_bind]
  refine meets_assess hverified hrun ?_
  rw [hands_ok, meets_bind]
  refine meets_read hcalm (Memory.run_getWorkflowRun hrun) ?_
  rw [hands_ok]
  by_cases hterminal : run.status.isTerminal = true
  · rw [if_pos hterminal]
    exact trivial
  · rw [if_neg hterminal, meets_bind]
    refine meets_query hcalm ?_
    rw [hands_ok]
    have hloop : KeepsRuns verifiers (Program.mapEach (openTasks before.store run.runId)
        fun taskRun : TaskRun => reconcileTask taskRun.taskRunId) := by
      apply keepsRuns_mapEach
      exact fun taskRun => keepsRuns_reconcileTask taskRun.taskRunId
    refine (hloop before).bind ?_ ?_
    · intro items middle hmiddle
      have hfound : middle.store.workflowRuns.find? run.runId = some run := by
        rw [hmiddle, hrun]
      split
      · exact hlast middle _ ⟨run, hfound⟩
      · have hcascade : (reconcileWorkflow run.runId).Meets (timelyContract verifiers)
            (Ends
              (fun _ after => ∃ last, after.store.workflowRuns.find? run.runId = some last)
              fun _ after => after.store.workflowRuns.find? run.runId = some run)
            middle := by
          unfold reconcileWorkflow
          rw [meets_bind]
          refine meets_read hcalm (Memory.run_getWorkflowRun hfound) ?_
          rw [hands_ok, if_neg hterminal, meets_bind]
          refine meets_query hcalm ?_
          rw [hands_ok]
          split
          · exact ⟨run, hfound⟩
          · rw [meets_bind]
            refine meets_transitionWorkflow hcalm hfound (fun _ _ => hfound)
              (fun at_ next _ hnext => ⟨trivial, next, ?_⟩) fun _ _ _ => hfound
            obtain ⟨-, -, -, hidentity, -⟩ := WorkflowRun.of_transition hnext
            rw [MemoryState.workflowRuns_afterWorkflowRun, hidentity.1, Table.find?_set_self]
        apply hcascade.bind
        · exact fun _ after => hlast after _
        · exact fun _ _ hsame => hsame
    · intro error after hafter
      rw [ends_error, hafter]
      exact hrun

variable (hrun : before.store.workflowRuns.find? run.runId = some run)
  (hruns : (reconcile run.runId).Runs (timely verifiers) before result after)

include hrun hruns

/-- A pass returns as the findings before it say, or it is rejected. -/
theorem passed_or_refused :
    ((∃ report, result = .ok report) ∧ Passed verifiers run before after) ∨
      ((∃ error, result = .error error) ∧ Refused verifiers run before) := by
  have hends := (meets_reconcile (verified_timely verifiers) hrun).of_runs hruns
  cases result with
  | ok report => exact Or.inl ⟨⟨report, rfl⟩, hends.2⟩
  | error error =>
      rcases hends with ⟨hnaive, -⟩ | ⟨hrefused, -⟩
      · exact absurd hnaive (not_naiveClock_timely verifiers)
      · exact Or.inr ⟨⟨error, rfl⟩, hrefused⟩

omit hrun hruns in
/-- A pass comes to a report and settles attempts together with their tasks if and only if it
is not rejected. -/
theorem reconcile_repairs_iff {runId : WorkflowRunId}
    (hfound : before.store.workflowRuns.find? runId = some run)
    (hpass : (reconcile runId).Runs (timely verifiers) before result after) :
    Repairs result before.store after.store ↔ ¬Rejects verifiers before.store run := by
  obtain rfl : run.runId = runId := Table.key_of_find? hfound
  rcases passed_or_refused hfound hpass with ⟨hreported, hpassed⟩ | ⟨⟨error, herror⟩, hrefused⟩
  · refine iff_of_true ⟨hreported, ?_⟩ (not_rejects_of_passed hpassed)
    intro attempt hmem hopen next hnext hended taskRun
    exact closed_of_passed hpassed hmem hopen hnext hended
  · refine iff_of_false ?_ (not_not_intro (rejects_of_refused hrefused))
    rintro ⟨⟨report, hreport⟩, -⟩
    rw [herror] at hreport
    cases hreport

end Passes

section Ends

variable {verifiers : Verifiers} {run : WorkflowRun} {before after : World}
  {result : Except PyError ReconciliationReport}

/-- Where the tasks stay as a pass settled them, one is open if and only if it was never
attempted. -/
theorem exists_open_iff_of_settled {middle : World}
    (hsettled : TasksSettled verifiers (openTasks before.store run.runId) before middle)
    (hleft : ¬Unresolved verifiers before.store run.runId) :
    (∃ taskRun ∈ middle.store.taskRuns.rows, taskRun.workflowRunId = run.runId ∧
        taskRun.status.isTerminal = false) ↔
      ∃ taskRun ∈ openTasks before.store run.runId,
        latestAttempt before.store taskRun.taskRunId = none := by
  have huntouched : ∀ taskRun ∈ openTasks before.store run.runId,
      (finding verifiers before.store taskRun.taskRunId).conclusive = false ↔
        latestAttempt before.store taskRun.taskRunId = none := by
    intro taskRun hmem
    constructor
    · intro hopen
      by_contra hattempted
      apply hleft
      refine ⟨taskRun, hmem, ?_⟩
      cases hfound : finding verifiers before.store taskRun.taskRunId with
      | untouched =>
          unfold finding at hfound
          split at hfound
          · next hnone => exact absurd hnone hattempted
          · split at hfound
            · cases hfound
            · unfold attemptFinding at hfound
              split at hfound
              · cases hfound
              · split at hfound
                · cases hfound
                · split at hfound <;> cases hfound
                · cases hfound
      | stillRunning => exact Or.inl rfl
      | manual => exact Or.inr rfl
      | repair attempt target disposition => simp [hfound, Finding.conclusive] at hopen
      | settle attempt attemptTarget target disposition =>
          simp [hfound, Finding.conclusive] at hopen
    · intro hnone
      unfold finding
      rw [hnone]
      rfl
  constructor
  · rintro ⟨taskRun, hmem, howner, hopen⟩
    obtain ⟨hbefore, hfound, -⟩ :=
      hsettled.open_before (mem_openTasks.mpr ⟨hmem, howner, hopen⟩)
    exact ⟨taskRun, hbefore, (huntouched taskRun hbefore).mp hfound⟩
  · rintro ⟨taskRun, hmem, hnone⟩
    have hafter := hsettled.open_after hmem ((huntouched taskRun hmem).mpr hnone)
    exact ⟨taskRun, mem_openTasks.mp hafter⟩

/-- A run that is open in the store does not end before its tasks. -/
theorem not_endsOpen_of_open {store : MemoryState}
    (hfound : store.workflowRuns.find? run.runId = some run)
    (hopen : run.status.isTerminal = false) : ¬EndsOpen store run.runId := by
  rintro ⟨other, hother, hended, -⟩
  rw [hfound] at hother
  rw [← Option.some.inj hother, hopen] at hended
  cases hended

/-- A pass leaves a run ended before one of its tasks in the two cases only. -/
theorem reconcile_closes_iff {runId : WorkflowRunId}
    (hrun : before.store.workflowRuns.find? runId = some run)
    (hruns : (reconcile runId).Runs (timely verifiers) before result after) :
    ¬EndsOpen after.store runId ↔ ¬LeavesBehind verifiers before.store run := by
  obtain rfl : run.runId = runId := Table.key_of_find? hrun
  rw [not_iff_not]
  rcases passed_or_refused hrun hruns with ⟨-, hpassed⟩ | ⟨⟨error, herror⟩, hrefused⟩
  · have hkept := not_rejects_of_passed hpassed
    unfold Passed at hpassed
    split at hpassed
    · next hterminal =>
      subst hpassed
      constructor
      · rintro ⟨other, hother, -, hopen⟩
        exact Or.inl ⟨hterminal, hopen⟩
      · rintro (⟨-, hopen⟩ | ⟨hnot, -⟩)
        · exact ⟨run, hrun, hterminal, hopen⟩
        · rw [hterminal] at hnot
          cases hnot
    next hterminal =>
    have hopen : run.status.isTerminal = false := by simpa using hterminal
    obtain ⟨middle, hsettled, hunresolved, hresolved⟩ := hpassed
    have hmiddle : middle.store.workflowRuns.find? run.runId = some run := by
      rw [hsettled.records.workflowRuns, hrun]
    by_cases hleft : Unresolved verifiers before.store run.runId
    · rw [hunresolved hleft]
      refine iff_of_false (not_endsOpen_of_open hmiddle hopen) ?_
      rintro (⟨hended, -⟩ | ⟨-, -, hnot, -⟩)
      · exact hterminal hended
      · exact hnot hleft
    have hcascade := hresolved hleft
    unfold RunSettled at hcascade
    rw [hsettled.verdict] at hcascade
    cases hverdict : verdictAfter verifiers before.store run with
    | none =>
        rw [hverdict] at hcascade
        have hsame : after = middle := hcascade
        rw [hsame]
        refine iff_of_false (not_endsOpen_of_open hmiddle hopen) ?_
        rintro (⟨hended, -⟩ | ⟨-, -, -, -, target, htarget, -⟩)
        · exact hterminal hended
        · rw [hverdict] at htarget
          cases htarget
    | some target =>
        rw [hverdict] at hcascade
        obtain ⟨-, next, at_, hidentity, hstatus, rfl⟩ := hcascade
        have hnext : ((middle.store.afterWorkflowRun run.status next at_).workflowRuns.find?
            run.runId) = some next := by
          rw [MemoryState.workflowRuns_afterWorkflowRun, hidentity.1, Table.find?_set_self]
        have htasks := exists_open_iff_of_settled hsettled hleft
        constructor
        · rintro ⟨other, hother, hended, htask⟩
          rw [hnext] at hother
          rw [← Option.some.inj hother, hstatus] at hended
          rw [MemoryState.taskRuns_afterWorkflowRun] at htask
          exact Or.inr ⟨hopen, hkept, hleft, htasks.mp htask, target, hverdict, hended⟩
        · rintro (⟨hended, -⟩ | ⟨-, -, -, huntouched, other, hother, hended⟩)
          · exact absurd hended hterminal
          · rw [hverdict] at hother
            rw [← Option.some.inj hother, ← hstatus] at hended
            refine ⟨next, hnext, hended, ?_⟩
            rw [MemoryState.taskRuns_afterWorkflowRun]
            exact htasks.mpr huntouched
  · have hrow := (meets_reconcile_error verifiers hrun).of_runs hruns
    rw [herror] at hrow
    refine iff_of_false (not_endsOpen_of_open hrow hrefused.1) ?_
    rintro (⟨hended, -⟩ | ⟨-, hnot, -⟩)
    · rw [hrefused.1] at hended
      cases hended
    · exact hnot (rejects_of_refused hrefused)

end Ends

section Orders

/-- A run of the orders that ended after so many steps with its process. -/
def crashed (execute : TaskExecutionRequest → Execution) (steps : Nat) : World :=
  ((ordersRuntime.run (.definition ordersWorkflow) none).advance
    (answering ⟨.lit "run-1"⟩ execute) steps emptyWorld).2

/-- A pass over a crashed run, where every verifier answers the same. -/
def reconcileCrashed (verification : Verification) (world : World) :
    Except PyError ReconciliationReport × World :=
  (reconcile ⟨.lit "run-1"⟩).drive (fun state service =>
    match service with
    | .verify _ _ => verification
    | service => quietOracle state service) world

theorem runs_reconcileCrashed (verification : Verification) (world : World) :
    (reconcile ⟨.lit "run-1"⟩).Runs (timely fun _ _ => verification) world
      (reconcileCrashed verification world).1 (reconcileCrashed verification world).2 := by
  apply runs_drive (fun _ _ => rfl)
  intro state service
  cases service with
  | verify attemptId ref => exact rfl
  | now => exact Option.some_ne_none _
  | _ => exact trivial

/-- The executor of `extract` has started an external run. -/
def startsExternally (_ : TaskExecutionRequest) : Execution :=
  .returned ⟨.none, none, [], [⟨.lit "spark", .lit "application-1", .lit "application", none,
    none, none, none, [], .lit "default", .lit "1"⟩]⟩

theorem reconcile_repairs_crashed :
    ∃ run, (crashed startsExternally 33).store.workflowRuns.find? ⟨.lit "run-1"⟩ = some run ∧
      (Repairs (reconcileCrashed (.returned .succeeded) (crashed startsExternally 33)).1
          (crashed startsExternally 33).store
          (reconcileCrashed (.returned .succeeded) (crashed startsExternally 33)).2.store ↔
        ¬Rejects (fun _ _ => .returned .succeeded) (crashed startsExternally 33).store run) := by
  have hfound : ((crashed startsExternally 33).store.workflowRuns.find?
      ⟨.lit "run-1"⟩).isSome = true := by decide +kernel
  obtain ⟨run, hrun⟩ := Option.isSome_iff_exists.mp hfound
  exact ⟨run, hrun, reconcile_repairs_iff hrun (runs_reconcileCrashed _ _)⟩

/-- The process of the orders ended after `extract` had started an external run, and the
provider says that this was cancelled: a `RUNNING` attempt cannot become `CANCELLED`. -/
theorem reconcile_rejected_crashed :
    ¬∀ (verifiers : Verifiers) (runId : WorkflowRunId) (run : WorkflowRun) (before after : World)
      (result : Except PyError ReconciliationReport),
      before.store.workflowRuns.find? runId = some run →
      (reconcile runId).Runs (timely verifiers) before result after →
      Repairs result before.store after.store := by
  intro hall
  have hfound : ((crashed startsExternally 33).store.workflowRuns.find?
      ⟨.lit "run-1"⟩).isSome = true := by decide +kernel
  obtain ⟨run, hrun⟩ := Option.isSome_iff_exists.mp hfound
  obtain ⟨report, hreport⟩ := (hall _ _ run _ _ _ hrun
    (runs_reconcileCrashed (.returned .cancelled) (crashed startsExternally 33))).reported
  have hfails : (reconcileCrashed (.returned .cancelled)
      (crashed startsExternally 33)).1.isOk = false := by decide +kernel
  rw [hreport] at hfails
  cases hfails

theorem reconcile_closes_crashed :
    ∃ run, (crashed extractRaises 36).store.workflowRuns.find? ⟨.lit "run-1"⟩ = some run ∧
      (¬EndsOpen (reconcileCrashed .unregistered (crashed extractRaises 36)).2.store
          ⟨.lit "run-1"⟩ ↔
        ¬LeavesBehind (fun _ _ => .unregistered) (crashed extractRaises 36).store run) := by
  have hfound : ((crashed extractRaises 36).store.workflowRuns.find?
      ⟨.lit "run-1"⟩).isSome = true := by decide +kernel
  obtain ⟨run, hrun⟩ := Option.isSome_iff_exists.mp hfound
  exact ⟨run, hrun, reconcile_closes_iff hrun (runs_reconcileCrashed _ _)⟩

/-- The process of the orders ended between the failure of the attempt of `extract` and that of
its task: the run fails, and `load` stays `PENDING`. -/
theorem reconcile_leaves_crashed :
    ¬∀ (verifiers : Verifiers) (runId : WorkflowRunId) (run : WorkflowRun) (before after : World)
      (result : Except PyError ReconciliationReport),
      before.store.workflowRuns.find? runId = some run →
      (reconcile runId).Runs (timely verifiers) before result after →
      ¬EndsOpen after.store runId := by
  intro hall
  have hfound : ((crashed extractRaises 36).store.workflowRuns.find?
      ⟨.lit "run-1"⟩).isSome = true := by decide +kernel
  obtain ⟨run, hrun⟩ := Option.isSome_iff_exists.mp hfound
  apply hall _ _ run _ _ _ hrun (runs_reconcileCrashed .unregistered (crashed extractRaises 36))
  have hended : ((reconcileCrashed .unregistered (crashed extractRaises 36)).2.store.workflowRuns.find?
      ⟨.lit "run-1"⟩).map (fun run => run.status.isTerminal) = some true := by decide +kernel
  obtain ⟨last, hlast, hterminal⟩ := Option.map_eq_some_iff.mp hended
  have hopen : (reconcileCrashed .unregistered (crashed extractRaises 36)).2.store.taskRuns.rows.any
      (fun taskRun => taskRun.workflowRunId = ⟨.lit "run-1"⟩ ∧
        taskRun.status.isTerminal = false) = true := by decide +kernel
  obtain ⟨taskRun, hmem, htask⟩ := List.any_eq_true.mp hopen
  obtain ⟨howner, hstatus⟩ := of_decide_eq_true htask
  exact ⟨last, hlast, hterminal, taskRun, hmem, howner, hstatus⟩

end Orders

end PyWorkflowKit.Runtime
