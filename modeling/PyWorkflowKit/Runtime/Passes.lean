import PyWorkflowKit.Runtime.Findings

/-!
# One pass of reconciliation

What `reconcile` does to a run and its tasks, in terms of what was found before
the pass.
-/

namespace PyWorkflowKit.Runtime

open PyWorkflowKit.Core PyWorkflowKit.Domain PyWorkflowKit.States
open PyWorkflowKit.Persistence PyWorkflowKit.Executors PyWorkflowKit.Diagnostics Program

/-- The rows of a task and of its attempts are the same in both stores. -/
structure SameRows (before after : MemoryState) (taskRunId : TaskRunId) : Prop where
  taskRun : after.taskRuns.find? taskRunId = before.taskRuns.find? taskRunId
  attempts : after.attemptsOf taskRunId = before.attemptsOf taskRunId

theorem SameRows.refl (store : MemoryState) (taskRunId : TaskRunId) :
    SameRows store store taskRunId := ⟨rfl, rfl⟩

theorem SameRows.trans {first second third : MemoryState} {taskRunId : TaskRunId}
    (hfirst : SameRows first second taskRunId)
    (hsecond : SameRows second third taskRunId) : SameRows first third taskRunId :=
  ⟨hsecond.taskRun.trans hfirst.taskRun, hsecond.attempts.trans hfirst.attempts⟩

/-- The rows of a task after a pass that found this about it. -/
def Finding.RowsAfter (taskRun : TaskRun) (before after : MemoryState) : Finding → Prop
  | repair _ target _ => ∃ next, taskRun.SameIdentity next ∧ next.status = target ∧
      after.taskRuns.find? taskRun.taskRunId = some next ∧
      after.attemptsOf taskRun.taskRunId = before.attemptsOf taskRun.taskRunId
  | settle attempt attemptTarget target _ => ∃ nextAttempt next,
      attempt.SameIdentity nextAttempt ∧ nextAttempt.status = attemptTarget ∧
        taskRun.SameIdentity next ∧ next.status = target ∧
        after.taskRuns.find? taskRun.taskRunId = some next ∧
        after.attemptsOf taskRun.taskRunId =
          replaceAttempt nextAttempt (before.attemptsOf taskRun.taskRunId)
  | untouched | stillRunning | manual => SameRows before after taskRun.taskRunId

/-- Applying a finding that is not conclusive changes nothing. -/
theorem Finding.Applied.eq_of_open {found : Finding} {taskRun : TaskRun}
    {before after : MemoryState} (happlied : found.Applied taskRun before after)
    (hopen : found.conclusive = false) : after = before := by
  cases found with
  | untouched => exact happlied
  | stillRunning => exact happlied
  | manual => exact happlied
  | repair attempt target disposition => simp [conclusive] at hopen
  | settle attempt attemptTarget target disposition => simp [conclusive] at hopen

/-- Everything but task runs and attempts is the same in both stores. -/
structure SameRecords (before after : MemoryState) : Prop where
  workflowRuns : after.workflowRuns = before.workflowRuns
  externalRefs : after.externalRefs = before.externalRefs
  outputCheckpoints : after.outputCheckpoints = before.outputCheckpoints
  manifests : after.manifests = before.manifests

theorem SameRecords.trans {first second third : MemoryState}
    (hfirst : SameRecords first second) (hsecond : SameRecords second third) :
    SameRecords first third where
  workflowRuns := hsecond.workflowRuns.trans hfirst.workflowRuns
  externalRefs := hsecond.externalRefs.trans hfirst.externalRefs
  outputCheckpoints := hsecond.outputCheckpoints.trans hfirst.outputCheckpoints
  manifests := hsecond.manifests.trans hfirst.manifests

section Rows

variable {before : MemoryState}

/-- Replacing a task row leaves every other task alone. -/
theorem sameRows_afterTaskRun {status : TaskRunStatus} {next : TaskRun} {at_ : Instant}
    {taskRunId : TaskRunId} (hne : next.taskRunId ≠ taskRunId) :
    SameRows before (before.afterTaskRun status next at_) taskRunId where
  taskRun := by
    rw [MemoryState.taskRuns_afterTaskRun, Table.find?_set_of_ne _ _ hne]
  attempts := by simp [MemoryState.attemptsOf]

/-- Replacing an attempt leaves the attempts of every other task alone. -/
theorem replaceAttempt_of_other {attempt next : TaskAttempt}
    (hmem : attempt ∈ before.taskAttempts.rows) (hidentity : attempt.SameIdentity next)
    {taskRunId : TaskRunId} (hne : attempt.taskRunId ≠ taskRunId) :
    replaceAttempt next (before.attemptsOf taskRunId) = before.attemptsOf taskRunId := by
  unfold replaceAttempt
  conv_rhs => rw [← List.map_id (before.attemptsOf taskRunId)]
  apply List.map_congr_left
  intro other hother
  obtain ⟨hrow, htask⟩ : other ∈ before.taskAttempts.rows ∧
      other.taskRunId = taskRunId := by
    simpa [MemoryState.attemptsOf] using hother
  have hother' : other.attemptId ≠ next.attemptId := by
    intro heq
    have hsame : other = attempt :=
      before.taskAttempts.eq_of_mem hrow hmem (heq.trans hidentity.1.symm)
    exact hne (hsame ▸ htask)
  simp [hother']

end Rows

/-- A finding depends on the attempts of the task and on the references only. -/
theorem finding_congr {verifiers : Verifiers} {before after : MemoryState}
    {taskRunId : TaskRunId}
    (hattempts : after.attemptsOf taskRunId = before.attemptsOf taskRunId)
    (hrefs : after.externalRefs = before.externalRefs) :
    finding verifiers after taskRunId = finding verifiers before taskRunId := by
  have hlatest : latestAttempt after taskRunId = latestAttempt before taskRunId := by
    simp [latestAttempt, MemoryState.listTaskAttempts, hattempts]
  have hlist : ∀ attemptId,
      after.listExternalRunRefs attemptId = before.listExternalRunRefs attemptId := by
    intro attemptId
    simp [MemoryState.listExternalRunRefs, hrefs]
  unfold finding
  rw [hlatest]
  simp only [hlist]

/-- The attempt of a finding is an attempt of the task. -/
theorem Finding.attempt_mem {verifiers : Verifiers} {store : MemoryState}
    {taskRunId : TaskRunId} {attempt : TaskAttempt} {attemptTarget : TaskAttemptStatus}
    {target : TaskRunStatus} {disposition : ReconciliationDisposition}
    (hfound : finding verifiers store taskRunId =
      .settle attempt attemptTarget target disposition) :
    attempt ∈ store.taskAttempts.rows ∧ attempt.taskRunId = taskRunId := by
  unfold finding at hfound
  cases hlatest : latestAttempt store taskRunId with
  | none =>
      rw [hlatest] at hfound
      cases hfound
  | some latest =>
      rw [hlatest] at hfound
      simp only at hfound
      split at hfound
      · cases hfound
      · have hsame : latest = attempt := by
          unfold attemptFinding at hfound
          split at hfound
          · cases hfound
          · split at hfound
            · cases hfound
            · split at hfound
              · cases hfound
                rfl
              · cases hfound
            · cases hfound
        rw [← hsame]
        exact mem_of_latestAttempt hlatest

/-- Applying a finding changes the rows of its task only, as it says. -/
theorem Finding.rowsAfter_of_applied {verifiers : Verifiers} {before after : MemoryState}
    {taskRun : TaskRun}
    (happlied : (finding verifiers before taskRun.taskRunId).Applied taskRun before after) :
    (finding verifiers before taskRun.taskRunId).RowsAfter taskRun before after ∧
      SameRecords before after ∧
      ∀ taskRunId, taskRunId ≠ taskRun.taskRunId → SameRows before after taskRunId := by
  cases hfound : finding verifiers before taskRun.taskRunId with
  | untouched =>
      rw [hfound] at happlied
      cases happlied
      exact ⟨SameRows.refl _ _, ⟨rfl, rfl, rfl, rfl⟩, fun _ _ => SameRows.refl _ _⟩
  | stillRunning =>
      rw [hfound] at happlied
      cases happlied
      exact ⟨SameRows.refl _ _, ⟨rfl, rfl, rfl, rfl⟩, fun _ _ => SameRows.refl _ _⟩
  | manual =>
      rw [hfound] at happlied
      cases happlied
      exact ⟨SameRows.refl _ _, ⟨rfl, rfl, rfl, rfl⟩, fun _ _ => SameRows.refl _ _⟩
  | repair attempt target disposition =>
      rw [hfound] at happlied
      obtain ⟨next, at_, hidentity, hstatus, rfl⟩ := happlied
      refine ⟨⟨next, hidentity, hstatus, ?_, ?_⟩, ⟨by simp, by simp, by simp, by simp⟩,
        fun taskRunId hne => sameRows_afterTaskRun ?_⟩
      · rw [MemoryState.taskRuns_afterTaskRun, hidentity.1, Table.find?_set_self]
      · simp [MemoryState.attemptsOf]
      · rw [← hidentity.1]
        exact fun heq => hne heq.symm
  | settle attempt attemptTarget target disposition =>
      obtain ⟨hmem, howner⟩ := Finding.attempt_mem hfound
      rw [hfound] at happlied
      obtain ⟨nextAttempt, next, at₁, at₂, hidentityAttempt, hstatusAttempt, hidentity,
        hstatus, rfl⟩ := happlied
      have hattempts : ∀ taskRunId, ((before.afterTaskAttempt attempt.status nextAttempt
          at₁).afterTaskRun taskRun.status next at₂).attemptsOf taskRunId =
          replaceAttempt nextAttempt (before.attemptsOf taskRunId) := by
        intro taskRunId
        rw [← MemoryState.attemptsOf_afterTaskAttempt _ attempt.status at₁ hmem hidentityAttempt]
        simp [MemoryState.attemptsOf]
      refine ⟨⟨nextAttempt, next, hidentityAttempt, hstatusAttempt, hidentity, hstatus,
        ?_, hattempts _⟩, ⟨by simp, by simp, by simp, by simp⟩,
        fun taskRunId hne => ⟨?_, ?_⟩⟩
      · rw [MemoryState.taskRuns_afterTaskRun, hidentity.1, Table.find?_set_self]
      · rw [MemoryState.taskRuns_afterTaskRun, Table.find?_set_of_ne,
          MemoryState.taskRuns_afterTaskAttempt]
        rw [← hidentity.1]
        exact fun heq => hne heq.symm
      · rw [hattempts]
        exact replaceAttempt_of_other hmem hidentityAttempt
          (howner ▸ fun heq => hne heq.symm)

/-- The task runs of a run that are not terminal, in the order of the pass. -/
def openTasks (store : MemoryState) (runId : WorkflowRunId) : List TaskRun :=
  (store.listTaskRuns runId).filter fun taskRun => !taskRun.status.isTerminal

theorem mem_openTasks {store : MemoryState} {runId : WorkflowRunId} {taskRun : TaskRun} :
    taskRun ∈ openTasks store runId ↔ taskRun ∈ store.taskRuns.rows ∧
      taskRun.workflowRunId = runId ∧ taskRun.status.isTerminal = false := by
  simp [openTasks, MemoryState.listTaskRuns, and_assoc]

theorem nodup_openTasks (store : MemoryState) (runId : WorkflowRunId) :
    ((openTasks store runId).map TaskRun.taskRunId).Nodup := by
  have hsub : (((store.listTaskRuns runId).filter fun taskRun =>
      !taskRun.status.isTerminal).map TaskRun.taskRunId).Sublist
        ((store.listTaskRuns runId).map TaskRun.taskRunId) :=
    List.filter_sublist.map _
  have hrows : ((store.taskRuns.rows.filter fun taskRun =>
      taskRun.workflowRunId = runId).map TaskRun.taskRunId).Nodup :=
    store.taskRuns.nodup.sublist (List.filter_sublist.map _)
  exact (((sortBy_perm _ _).map _).nodup_iff.mpr hrows).sublist hsub

/-- The tasks handled so far have the rows that their findings give them, and
nothing else has changed. -/
structure TasksSettled (verifiers : Verifiers) (handled : List TaskRun)
    (before after : World) : Prop where
  workers : after.workers = before.workers
  records : SameRecords before.store after.store
  settled : ∀ taskRun ∈ handled,
    (finding verifiers before.store taskRun.taskRunId).RowsAfter taskRun before.store
      after.store
  legal : ∀ taskRun ∈ handled,
    (finding verifiers before.store taskRun.taskRunId).Legal taskRun
  others : ∀ taskRunId, taskRunId ∉ handled.map TaskRun.taskRunId →
    SameRows before.store after.store taskRunId
  idle : (∀ taskRun ∈ handled,
    (finding verifiers before.store taskRun.taskRunId).conclusive = false) →
      after = before

/-- Rows of a task survive a change of other tasks. -/
theorem Finding.RowsAfter.of_same {found : Finding} {taskRun : TaskRun}
    {before after last : MemoryState} (hrows : found.RowsAfter taskRun before after)
    (hsame : SameRows after last taskRun.taskRunId) :
    found.RowsAfter taskRun before last := by
  cases found with
  | untouched => exact SameRows.trans hrows hsame
  | stillRunning => exact SameRows.trans hrows hsame
  | manual => exact SameRows.trans hrows hsame
  | repair attempt target disposition =>
      obtain ⟨next, hidentity, hstatus, hfind, hattempts⟩ := hrows
      exact ⟨next, hidentity, hstatus, hsame.taskRun.trans hfind,
        hsame.attempts.trans hattempts⟩
  | settle attempt attemptTarget target disposition =>
      obtain ⟨nextAttempt, next, hidentityAttempt, hstatusAttempt, hidentity, hstatus,
        hfind, hattempts⟩ := hrows
      exact ⟨nextAttempt, next, hidentityAttempt, hstatusAttempt, hidentity, hstatus,
        hsame.taskRun.trans hfind, hsame.attempts.trans hattempts⟩

/-- Rows that were the same before the finding was applied are a start as good. -/
theorem Finding.RowsAfter.from_same {found : Finding} {taskRun : TaskRun}
    {first before after : MemoryState} (hsame : SameRows first before taskRun.taskRunId)
    (hrows : found.RowsAfter taskRun before after) :
    found.RowsAfter taskRun first after := by
  cases found with
  | untouched => exact hsame.trans hrows
  | stillRunning => exact hsame.trans hrows
  | manual => exact hsame.trans hrows
  | repair attempt target disposition =>
      obtain ⟨next, hidentity, hstatus, hfind, hattempts⟩ := hrows
      exact ⟨next, hidentity, hstatus, hfind, hattempts.trans hsame.attempts⟩
  | settle attempt attemptTarget target disposition =>
      obtain ⟨nextAttempt, next, hidentityAttempt, hstatusAttempt, hidentity, hstatus,
        hfind, hattempts⟩ := hrows
      exact ⟨nextAttempt, next, hidentityAttempt, hstatusAttempt, hidentity, hstatus,
        hfind, by rw [hattempts, hsame.attempts]⟩

/-- How the cascade of a run ends. -/
def RunSettled (run : WorkflowRun) (before after : World) : Prop :=
  match workflowVerdict run.status
      ((before.store.listTaskRuns run.runId).map TaskRun.status) with
  | none => after = before
  | some target => target ∈ workflowTransitions run.status ∧
      ∃ next at_, run.SameIdentity next ∧ next.status = target ∧
        after = { before with
          store := before.store.afterWorkflowRun run.status next at_ }

/-- The assessment of a task, as a function of the store. -/
def taskAssessment (store : MemoryState) (taskRun : TaskRun) : TaskRecoveryAssessment :=
  classifyTask taskRun (latestAttempt store taskRun.taskRunId)
    (match latestAttempt store taskRun.taskRunId with
    | none => []
    | some attempt => store.listExternalRunRefs attempt.attemptId)

/-- The assessment of a run, as a function of the store. -/
def runAssessment (store : MemoryState) (run : WorkflowRun) : RecoveryAssessment :=
  classifyRun run ((store.listTaskRuns run.runId).map (taskAssessment store))

/-- Some open task is left running or to a person. -/
def Unresolved (verifiers : Verifiers) (store : MemoryState) (runId : WorkflowRunId) :
    Prop :=
  ∃ taskRun ∈ openTasks store runId,
    (finding verifiers store taskRun.taskRunId).disposition = .stillRunning ∨
      (finding verifiers store taskRun.taskRunId).disposition = .manualRequired

/-- A pass over a run that returns. -/
def Passed (verifiers : Verifiers) (run : WorkflowRun) (before after : World) : Prop :=
  if run.status.isTerminal then after = before
  else ∃ middle, TasksSettled verifiers (openTasks before.store run.runId) before middle ∧
    (Unresolved verifiers before.store run.runId → after = middle) ∧
    (¬ Unresolved verifiers before.store run.runId → RunSettled run middle after)

/-- A pass over a run that is rejected by a transition table. -/
def Refused (verifiers : Verifiers) (run : WorkflowRun) (before : World) : Prop :=
  run.status.isTerminal = false ∧
    ((∃ taskRun ∈ openTasks before.store run.runId,
        ¬ (finding verifiers before.store taskRun.taskRunId).Legal taskRun) ∨
      (¬ Unresolved verifiers before.store run.runId ∧
        ∃ middle, TasksSettled verifiers (openTasks before.store run.runId) before middle ∧
          ∃ target, workflowVerdict run.status
              ((middle.store.listTaskRuns run.runId).map TaskRun.status) = some target ∧
            target ∉ workflowTransitions run.status))

/-- A pass over a run that asks for a transition. -/
def Acts (verifiers : Verifiers) (run : WorkflowRun) (before : World) : Prop :=
  run.status.isTerminal = false ∧
    ((∃ taskRun ∈ openTasks before.store run.runId,
        (finding verifiers before.store taskRun.taskRunId).conclusive = true) ∨
      (¬ Unresolved verifiers before.store run.runId ∧
        ∃ middle, TasksSettled verifiers (openTasks before.store run.runId) before middle ∧
          workflowVerdict run.status
              ((middle.store.listTaskRuns run.runId).map TaskRun.status) ≠ none))

section Rules

variable {contract : Contract Service Service.Answer World} {verifiers : Verifiers}
  (hverified : Verified contract verifiers)

include hverified

/-- The loop over the open tasks applies every finding of the state before it. -/
theorem meets_reconcileTasks {world : World} {runId : WorkflowRunId} {run : WorkflowRun}
    (hrun : world.store.workflowRuns.find? runId = some run) :
    (mapEach (openTasks world.store runId) fun taskRun =>
      reconcileTask taskRun.taskRunId).Meets contract
        (Ends
          (fun items after => items.map TaskReconciliation.disposition =
              (openTasks world.store runId).map (fun taskRun =>
                (finding verifiers world.store taskRun.taskRunId).disposition) ∧
            TasksSettled verifiers (openTasks world.store runId) world after)
          fun error _ => (NaiveClock contract ∧ ∃ taskRun ∈ openTasks world.store runId,
              (finding verifiers world.store taskRun.taskRunId).conclusive = true) ∨
            ∃ taskRun ∈ openTasks world.store runId,
              ¬ (finding verifiers world.store taskRun.taskRunId).Legal taskRun ∧
                error.isStateMachineError = true) world := by
  refine meets_mapEach (fun handled items after =>
      items.map TaskReconciliation.disposition = handled.map (fun taskRun =>
        (finding verifiers world.store taskRun.taskRunId).disposition) ∧
      TasksSettled verifiers handled world after) _ _ ?_ ?_ ?_
  · rintro handled taskRun rest items current hsplit ⟨hitems, hsettled⟩
    have hmem : taskRun ∈ openTasks world.store runId := by simp [hsplit]
    obtain ⟨hrow, howner, hopen⟩ := mem_openTasks.mp hmem
    have hfresh : taskRun.taskRunId ∉ handled.map TaskRun.taskRunId := by
      have hnodup := nodup_openTasks world.store runId
      rw [hsplit, List.map_append] at hnodup
      exact fun hold => List.disjoint_of_nodup_append hnodup hold (by simp)
    have hsame := hsettled.others taskRun.taskRunId hfresh
    have htask : current.store.taskRuns.find? taskRun.taskRunId = some taskRun := by
      rw [hsame.taskRun]
      exact Table.find?_of_mem _ hrow
    have hcurrentRun : current.store.workflowRuns.find? taskRun.workflowRunId =
        some run := by
      rw [hsettled.records.workflowRuns, howner, hrun]
    have hfound : finding verifiers current.store taskRun.taskRunId =
        finding verifiers world.store taskRun.taskRunId :=
      finding_congr hsame.attempts hsettled.records.externalRefs
    refine (meets_reconcileTask hverified hcurrentRun htask hopen).mono ?_
    intro result after hresult
    cases result with
    | error error =>
        rcases hresult with ⟨hnaive, hconclusive⟩ | ⟨hillegal, herror⟩
        · rw [hfound] at hconclusive
          exact Or.inl ⟨hnaive, taskRun, hmem, hconclusive⟩
        · rw [hfound] at hillegal
          exact Or.inr ⟨taskRun, hmem, hillegal, herror⟩
    | ok item =>
        obtain ⟨hitem, hlegal, happlied, hworkers⟩ := hresult
        obtain ⟨hrows, hrecords, hothers⟩ := Finding.rowsAfter_of_applied happlied
        rw [hfound] at hitem hlegal hrows happlied
        refine ⟨by simp [hitems, hitem], hworkers.trans hsettled.workers,
          hsettled.records.trans hrecords, ?_, ?_, ?_, ?_⟩
        · intro other hother
          rcases List.mem_append.mp hother with hold | hnew
          · have hne : other.taskRunId ≠ taskRun.taskRunId := fun heq =>
              hfresh (heq ▸ List.mem_map_of_mem hold)
            exact (hsettled.settled other hold).of_same (hothers _ hne)
          · obtain rfl := List.mem_singleton.mp hnew
            exact hrows.from_same hsame
        · intro other hother
          rcases List.mem_append.mp hother with hold | hnew
          · exact hsettled.legal other hold
          · obtain rfl := List.mem_singleton.mp hnew
            exact hlegal
        · intro taskRunId hnot
          simp only [List.map_append, List.mem_append, not_or] at hnot
          exact (hsettled.others taskRunId hnot.1).trans
            (hothers taskRunId (by simpa using hnot.2))
        · intro hidle
          have hbefore := hsettled.idle fun other hother =>
            hidle other (List.mem_append_left _ hother)
          rw [← hbefore]
          exact World.ext (happlied.eq_of_open (hidle taskRun (by simp))) hworkers
  · exact fun _ _ hend => hend
  · exact ⟨rfl, rfl, ⟨rfl, rfl, rfl, rfl⟩, by simp, by simp,
      fun taskRunId _ => SameRows.refl _ _, fun _ => rfl⟩

/-- The cascade moves the run as the verdict on its tasks says. -/
theorem meets_reconcileWorkflow {world : World} {run : WorkflowRun}
    (hrun : world.store.workflowRuns.find? run.runId = some run)
    (hopen : run.status.isTerminal = false) :
    (reconcileWorkflow run.runId).Meets contract
      (Ends (fun _ => RunSettled run world)
        fun error _ => (NaiveClock contract ∧ workflowVerdict run.status
              ((world.store.listTaskRuns run.runId).map TaskRun.status) ≠ none) ∨
          ∃ target, workflowVerdict run.status
              ((world.store.listTaskRuns run.runId).map TaskRun.status) = some target ∧
            target ∉ workflowTransitions run.status ∧
            error.isStateMachineError = true) world := by
  have hcalm := hverified.toUndisturbed
  unfold reconcileWorkflow
  rw [meets_bind]
  refine meets_read hcalm (Memory.run_getWorkflowRun hrun) ?_
  rw [hands_ok, if_neg (by simp [hopen]), meets_bind]
  refine meets_query hcalm ?_
  rw [hands_ok]
  cases hverdict : workflowVerdict run.status
      ((world.store.listTaskRuns run.runId).map TaskRun.status) with
  | none =>
      simp only [meets_pure, ends_ok, RunSettled, hverdict]
  | some target =>
      simp only
      rw [meets_bind]
      refine meets_transitionWorkflow hcalm hrun (fun hnaive error =>
        Or.inl ⟨⟨world, hnaive⟩, by simp⟩) (fun at_ next _ hnext =>
          ⟨hverified.writes _ _, ?_⟩) fun hillegal error herror => Or.inr ⟨target, rfl, hillegal, herror⟩
      obtain ⟨hallowed, hstatus, -, hidentity, -⟩ := WorkflowRun.of_transition hnext
      simp only [hands_ok, meets_pure, ends_ok, RunSettled, hverdict]
      exact ⟨hallowed, next, at_.instant, hidentity, hstatus, rfl⟩

/-- The assessment reads the store only. -/
theorem meets_assess {world : World} {run : WorkflowRun}
    (hrun : world.store.workflowRuns.find? run.runId = some run)
    {post : Except PyError RecoveryAssessment → World → Prop}
    (hpost : post (.ok (runAssessment world.store run)) world) :
    (assess run.runId).Meets contract post world := by
  have hcalm := hverified.toUndisturbed
  unfold assess
  rw [meets_bind]
  refine meets_read hcalm (Memory.run_getWorkflowRun hrun) ?_
  rw [hands_ok, meets_bind]
  refine meets_query hcalm ?_
  rw [hands_ok]
  refine (meets_mapEach (fun handled items current =>
    items = handled.map (taskAssessment world.store) ∧ current = world)
      (fun _ _ => False) _ ?_
      (fun _ _ hend => hend) ⟨rfl, rfl⟩).bind ?_ ?_
  · rintro handled taskRun rest items current hsplit ⟨rfl, rfl⟩
    have hmem : taskRun ∈ current.store.listTaskRuns run.runId := by simp [hsplit]
    have hrow : taskRun ∈ current.store.taskRuns.rows := by
      simp only [MemoryState.listTaskRuns, mem_sortBy, List.mem_filter] at hmem
      exact hmem.1
    unfold assessTask
    rw [meets_bind]
    refine meets_read hcalm (Memory.run_getTaskRun (Table.find?_of_mem _ hrow)) ?_
    rw [hands_ok, meets_bind]
    refine meets_query hcalm ?_
    rw [hands_ok]
    have hlast : (current.store.listTaskAttempts taskRun.taskRunId).getLast? =
        latestAttempt current.store taskRun.taskRunId := rfl
    rw [hlast]
    have htask : taskAssessment current.store taskRun =
        classifyTask taskRun (latestAttempt current.store taskRun.taskRunId)
          (match latestAttempt current.store taskRun.taskRunId with
          | none => []
          | some attempt => current.store.listExternalRunRefs attempt.attemptId) := rfl
    cases hlatest : latestAttempt current.store taskRun.taskRunId with
    | none =>
        rw [hlatest] at htask
        exact ⟨by simp [htask], rfl⟩
    | some attempt =>
        rw [hlatest] at htask
        simp only at htask ⊢
        by_cases hterminal : taskRun.status.isTerminal = true
        · rw [if_pos hterminal]
          refine ⟨?_, rfl⟩
          simp [htask, classifyTask, hterminal]
        · rw [if_neg hterminal, meets_bind]
          refine meets_query hcalm ?_
          exact ⟨by simp [htask], rfl⟩
  · rintro items after ⟨rfl, rfl⟩
    exact hpost
  · intro error after hfalse
    exact hfalse.elim

/-- One pass returns or is refused, as the findings before it say. -/
theorem meets_reconcile {world : World} {run : WorkflowRun}
    (hrun : world.store.workflowRuns.find? run.runId = some run) :
    (reconcile run.runId).Meets contract
      (Ends (fun report after => report.assessment = runAssessment world.store run ∧
          Passed verifiers run world after)
        fun error _ => (NaiveClock contract ∧ Acts verifiers run world) ∨
          (Refused verifiers run world ∧ error.isStateMachineError = true)) world := by
  have hcalm := hverified.toUndisturbed
  unfold reconcile
  rw [meets_bind]
  refine meets_assess hverified hrun ?_
  rw [hands_ok, meets_bind]
  refine meets_read hcalm (Memory.run_getWorkflowRun hrun) ?_
  rw [hands_ok]
  by_cases hterminal : run.status.isTerminal = true
  · rw [if_pos hterminal]
    exact ⟨rfl, by simp [Passed, hterminal]⟩
  · rw [if_neg hterminal, meets_bind]
    have hopen : run.status.isTerminal = false := by simpa using hterminal
    refine meets_query hcalm ?_
    rw [hands_ok]
    refine (meets_reconcileTasks hverified hrun).bind ?_ ?_
    · rintro items middle ⟨hitems, hsettled⟩
      have hunresolved : items.any TaskReconciliation.unresolved = true ↔
          Unresolved verifiers world.store run.runId := by
        have hany : items.any TaskReconciliation.unresolved =
            (items.map TaskReconciliation.disposition).any fun disposition =>
              disposition = .stillRunning || disposition = .manualRequired := by
          rw [List.any_map]
          rfl
        rw [hany, hitems, List.any_map, List.any_eq_true]
        simp [Unresolved]
      have hmiddle : middle.store.workflowRuns.find? run.runId = some run := by
        rw [hsettled.records.workflowRuns]
        exact hrun
      by_cases hany : items.any TaskReconciliation.unresolved = true
      · rw [if_pos hany, meets_bind]
        refine meets_read hcalm (Memory.run_getWorkflowRun hmiddle) ?_
        refine ⟨rfl, ?_⟩
        rw [Passed, if_neg hterminal]
        exact ⟨middle, hsettled, fun _ => rfl,
          fun hnot => absurd (hunresolved.mp hany) hnot⟩
      · rw [if_neg hany]
        have hnot : ¬ Unresolved verifiers world.store run.runId := fun h =>
          hany (hunresolved.mpr h)
        refine (meets_reconcileWorkflow hverified hmiddle hopen).bind ?_ ?_
        · intro _ after hafter
          have hlast : ∃ last, after.store.workflowRuns.find? run.runId = some last := by
            unfold RunSettled at hafter
            split at hafter
            · exact ⟨run, hafter ▸ hmiddle⟩
            · obtain ⟨-, next, at_, hidentity, -, rfl⟩ := hafter
              refine ⟨next, ?_⟩
              rw [MemoryState.workflowRuns_afterWorkflowRun, hidentity.1,
                Table.find?_set_self]
          obtain ⟨last, hlast⟩ := hlast
          rw [meets_bind]
          refine meets_read hcalm (Memory.run_getWorkflowRun hlast) ?_
          refine ⟨rfl, ?_⟩
          rw [Passed, if_neg hterminal]
          exact ⟨middle, hsettled, fun h => absurd h hnot, fun _ => hafter⟩
        · rintro error after (⟨hnaive, hverdict⟩ | ⟨target, hverdict, hillegal, herror⟩)
          · exact Or.inl ⟨hnaive, hopen, Or.inr ⟨hnot, middle, hsettled, hverdict⟩⟩
          · exact Or.inr ⟨⟨hopen, Or.inr ⟨hnot, middle, hsettled, target, hverdict,
              hillegal⟩⟩, herror⟩
    · rintro error after (⟨hnaive, hconclusive⟩ | ⟨taskRun, hmem, hillegal, herror⟩)
      · exact Or.inl ⟨hnaive, hopen, Or.inl hconclusive⟩
      · exact Or.inr ⟨⟨hopen, Or.inl ⟨taskRun, hmem, hillegal⟩⟩, herror⟩

end Rules

end PyWorkflowKit.Runtime
