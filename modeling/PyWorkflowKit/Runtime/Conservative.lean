import PyWorkflowKit.Runtime.Passes
import Mathlib.Data.List.Dedup

/-!
# Conservative reconciliation

A pass changes a task only on evidence, leaves everything else alone and has
nothing left to do when it is repeated with the same answers.
-/

namespace PyWorkflowKit.Runtime

open PyWorkflowKit.Core PyWorkflowKit.Domain PyWorkflowKit.States
open PyWorkflowKit.Persistence PyWorkflowKit.Executors PyWorkflowKit.Diagnostics Program

/-- The verifiers answer as given; every other service answers as it likes. -/
def reconciling (verifiers : Verifiers) :
    Surroundings Service Service.Answer World where
  drift _ before after := before = after
  allows _ service answer :=
    match service, answer with
    | .verify attemptId ref, verification => verification = verifiers attemptId ref
    | _, _ => True

/-- The contract of a pass that nobody disturbs. -/
def reconcilingContract (verifiers : Verifiers) :
    Contract Service Service.Answer World where
  toSurroundings := reconciling verifiers
  guarantee _ _ := True
  enters _ _ := True

theorem verified_reconciling (verifiers : Verifiers) :
    Verified (reconcilingContract verifiers) verifiers where
  step _ _ hdrift := hdrift
  clock _ _ hdrift := hdrift
  entersClock _ := trivial
  idle _ := trivial
  verifyQuiet _ _ _ _ hdrift := hdrift
  entersVerify _ _ _ := trivial
  answers _ _ _ _ hallows := hallows
  writes _ _ := trivial

/-- What a pass over a run may do to the store. -/
structure Effect (verifiers : Verifiers) (runId : WorkflowRunId)
    (before after : MemoryState) : Prop where
  tasks : ∀ taskRunId, SameRows before after taskRunId ∨
    ∃ taskRun ∈ openTasks before runId, taskRun.taskRunId = taskRunId ∧
      (finding verifiers before taskRunId).conclusive = true ∧
      (finding verifiers before taskRunId).RowsAfter taskRun before after
  externalRefs : after.externalRefs = before.externalRefs
  outputCheckpoints : after.outputCheckpoints = before.outputCheckpoints
  manifests : after.manifests = before.manifests
  workflowRuns : ∀ other, other ≠ runId →
    after.workflowRuns.find? other = before.workflowRuns.find? other

/-- A finding that is not conclusive leaves the rows of its task alone. -/
theorem Finding.RowsAfter.same {found : Finding} {taskRun : TaskRun}
    {before after : MemoryState} (hrows : found.RowsAfter taskRun before after)
    (hopen : found.conclusive = false) : SameRows before after taskRun.taskRunId := by
  cases found with
  | untouched => exact hrows
  | stillRunning => exact hrows
  | manual => exact hrows
  | repair attempt target disposition => simp [conclusive] at hopen
  | settle attempt attemptTarget target disposition => simp [conclusive] at hopen

theorem TasksSettled.tasks {verifiers : Verifiers} {runId : WorkflowRunId}
    {before after : World}
    (hsettled : TasksSettled verifiers (openTasks before.store runId) before after)
    (taskRunId : TaskRunId) : SameRows before.store after.store taskRunId ∨
      ∃ taskRun ∈ openTasks before.store runId, taskRun.taskRunId = taskRunId ∧
        (finding verifiers before.store taskRunId).conclusive = true ∧
        (finding verifiers before.store taskRunId).RowsAfter taskRun before.store
          after.store := by
  by_cases hmem : taskRunId ∈ (openTasks before.store runId).map TaskRun.taskRunId
  · obtain ⟨taskRun, htaskRun, rfl⟩ := List.mem_map.mp hmem
    have hrows := hsettled.settled taskRun htaskRun
    cases hconclusive : (finding verifiers before.store taskRun.taskRunId).conclusive with
    | false => exact Or.inl (hrows.same hconclusive)
    | true => exact Or.inr ⟨taskRun, htaskRun, rfl, rfl, hrows⟩
  · exact Or.inl (hsettled.others taskRunId hmem)

/-- The cascade touches the row of its run only. -/
theorem RunSettled.frame {run : WorkflowRun} {before after : World}
    (hsettled : RunSettled run before after) :
    after.workers = before.workers ∧ after.store.taskRuns = before.store.taskRuns ∧
      after.store.taskAttempts = before.store.taskAttempts ∧
      after.store.externalRefs = before.store.externalRefs ∧
      after.store.outputCheckpoints = before.store.outputCheckpoints ∧
      after.store.manifests = before.store.manifests ∧
      ∀ other, other ≠ run.runId →
        after.store.workflowRuns.find? other = before.store.workflowRuns.find? other := by
  unfold RunSettled at hsettled
  split at hsettled
  · subst hsettled
    exact ⟨rfl, rfl, rfl, rfl, rfl, rfl, fun _ _ => rfl⟩
  · obtain ⟨-, next, at_, hidentity, -, rfl⟩ := hsettled
    refine ⟨rfl, by simp, by simp, by simp, by simp, by simp, fun other hne => ?_⟩
    rw [MemoryState.workflowRuns_afterWorkflowRun, Table.find?_set_of_ne]
    rw [← hidentity.1]
    exact fun heq => hne heq.symm

/-- Rows of tasks depend on the tables of task runs and attempts only. -/
theorem sameRows_of_tables {before after : MemoryState}
    (htasks : after.taskRuns = before.taskRuns)
    (hattempts : after.taskAttempts = before.taskAttempts) (taskRunId : TaskRunId) :
    SameRows before after taskRunId :=
  ⟨by rw [htasks], by simp [MemoryState.attemptsOf, hattempts]⟩

theorem Passed.effect {verifiers : Verifiers} {run : WorkflowRun} {before after : World}
    (hpassed : Passed verifiers run before after) :
    Effect verifiers run.runId before.store after.store := by
  unfold Passed at hpassed
  split at hpassed
  · subst hpassed
    exact ⟨fun _ => Or.inl (SameRows.refl _ _), rfl, rfl, rfl, fun _ _ => rfl⟩
  obtain ⟨middle, hsettled, hunresolved, hresolved⟩ := hpassed
  by_cases hopen : Unresolved verifiers before.store run.runId
  · rw [hunresolved hopen]
    exact ⟨hsettled.tasks, hsettled.records.externalRefs,
      hsettled.records.outputCheckpoints, hsettled.records.manifests,
      fun _ _ => by rw [hsettled.records.workflowRuns]⟩
  · obtain ⟨-, htasks, hattempts, hrefs, hcheckpoints, hmanifests, hruns⟩ :=
      (hresolved hopen).frame
    refine ⟨fun taskRunId => ?_, hrefs.trans hsettled.records.externalRefs,
      hcheckpoints.trans hsettled.records.outputCheckpoints,
      hmanifests.trans hsettled.records.manifests, fun other hne => ?_⟩
    · have hsame := sameRows_of_tables htasks hattempts
      rcases hsettled.tasks taskRunId with hrows | ⟨taskRun, hmem, rfl, hconclusive, hrows⟩
      · exact Or.inl (hrows.trans (hsame _))
      · exact Or.inr ⟨taskRun, hmem, rfl, hconclusive, hrows.of_same (hsame _)⟩
    · rw [hruns other hne, hsettled.records.workflowRuns]

/-- The evidence on which a task run may change its status: a terminal latest
attempt, whose status it takes, or one conclusive status observed for all the
references of the latest attempt, which attempt and task take. -/
def ChangedOnEvidence (verifiers : Verifiers) (before after : MemoryState)
    (taskRun next : TaskRun) : Prop :=
  taskRun.status.isTerminal = false ∧
    ∃ attempt, latestAttempt before taskRun.taskRunId = some attempt ∧
      ((attempt.status.isTerminal = true ∧ next.status.value = attempt.status.value) ∨
        (before.listExternalRunRefs attempt.attemptId ≠ [] ∧
          ∃ status nextAttempt disposition,
            (∀ ref ∈ before.listExternalRunRefs attempt.attemptId,
              verifiers attempt.attemptId ref = .returned status) ∧
            conclusion status = some (nextAttempt.status, next.status, disposition) ∧
            after.taskAttempts.find? attempt.attemptId = some nextAttempt))

theorem value_of_repairTarget {status : TaskAttemptStatus} {target : TaskRunStatus}
    {disposition : ReconciliationDisposition}
    (hrepair : repairTarget status = some (target, disposition)) :
    status.isTerminal = true ∧ target.value = status.value := by
  cases status <;> simp [repairTarget] at hrepair <;> obtain ⟨rfl, -⟩ := hrepair <;>
    exact ⟨rfl, rfl⟩

/-- A conclusive observation is an answer of the verifier. -/
theorem returned_of_observation {ref : ExternalRunRef} {verification : Verification}
    {status : ExternalRunStatus} (hstatus : (observation ref verification).status = status)
    (hconclusive : conclusion status ≠ none) : verification = .returned status := by
  cases verification with
  | returned answer =>
      rw [show status = answer from hstatus.symm]
  | unregistered =>
      subst hstatus
      exact absurd rfl hconclusive
  | raised typeName =>
      subst hstatus
      exact absurd rfl hconclusive
  | invalid =>
      subst hstatus
      exact absurd rfl hconclusive

/-- What stands behind a finding that repairs a task. -/
theorem finding_eq_repair {verifiers : Verifiers} {store : MemoryState}
    {taskRunId : TaskRunId} {attempt : TaskAttempt} {target : TaskRunStatus}
    {disposition : ReconciliationDisposition}
    (hfound : finding verifiers store taskRunId = .repair attempt target disposition) :
    latestAttempt store taskRunId = some attempt ∧
      repairTarget attempt.status = some (target, disposition) := by
  unfold finding at hfound
  split at hfound
  · cases hfound
  · next latest hlatest =>
    split at hfound
    · next hrepair =>
      cases hfound
      exact ⟨hlatest, hrepair⟩
    · unfold attemptFinding at hfound
      split at hfound
      · cases hfound
      · split at hfound
        · cases hfound
        · split at hfound <;> cases hfound
        · cases hfound

/-- What stands behind a finding that settles an attempt and its task. -/
theorem finding_eq_settle {verifiers : Verifiers} {store : MemoryState}
    {taskRunId : TaskRunId} {attempt : TaskAttempt} {attemptTarget : TaskAttemptStatus}
    {target : TaskRunStatus} {disposition : ReconciliationDisposition}
    (hfound : finding verifiers store taskRunId =
      .settle attempt attemptTarget target disposition) :
    latestAttempt store taskRunId = some attempt ∧ attempt.status.isTerminal = false ∧
      store.listExternalRunRefs attempt.attemptId ≠ [] ∧
      ∃ status, conclusion status = some (attemptTarget, target, disposition) ∧
        ∀ ref ∈ store.listExternalRunRefs attempt.attemptId,
          verifiers attempt.attemptId ref = .returned status := by
  unfold finding at hfound
  split at hfound
  · cases hfound
  next latest hlatest =>
  split at hfound
  · cases hfound
  next hopen =>
  unfold attemptFinding at hfound
  split at hfound
  · cases hfound
  split at hfound
  · cases hfound
  · next status _ hstatuses =>
    split at hfound
    · next hconclusion =>
      cases hfound
      have hall : ∀ ref ∈ store.listExternalRunRefs attempt.attemptId,
          (observation ref (verifiers attempt.attemptId ref)).status = status := by
        intro ref href
        have hmem : (observation ref (verifiers attempt.attemptId ref)).status ∈
            observedStatuses verifiers attempt.attemptId
              (store.listExternalRunRefs attempt.attemptId) := by
          rw [observedStatuses, List.mem_dedup]
          exact List.mem_map_of_mem (f := fun ref =>
            (observation ref (verifiers attempt.attemptId ref)).status) href
        rw [hstatuses] at hmem
        exact List.mem_singleton.mp hmem
      refine ⟨hlatest, (repairTarget_eq_none_iff _).mp hopen, ?_, status, hconclusion,
        fun ref href => returned_of_observation (hall ref href) (by simp [hconclusion])⟩
      intro hnil
      rw [hnil] at hstatuses
      simp [observedStatuses] at hstatuses
    · cases hfound
  · cases hfound

/-- (a) of the conservative pass. -/
theorem Effect.changed {verifiers : Verifiers} {runId : WorkflowRunId}
    {before after : MemoryState} (heffect : Effect verifiers runId before after)
    {taskRun next : TaskRun} (hmem : taskRun ∈ before.taskRuns.rows)
    (hnext : after.taskRuns.find? taskRun.taskRunId = some next)
    (hchanged : next.status ≠ taskRun.status) :
    ChangedOnEvidence verifiers before after taskRun next := by
  have hfind := Table.find?_of_mem _ hmem
  rcases heffect.tasks taskRun.taskRunId with hsame | ⟨other, hopen, hid, hconclusive, hrows⟩
  · rw [hsame.taskRun, hfind] at hnext
    cases hnext
    exact absurd rfl hchanged
  obtain ⟨hrow, howner, hnonterminal⟩ := mem_openTasks.mp hopen
  obtain rfl : other = taskRun := before.taskRuns.eq_of_mem hrow hmem hid
  refine ⟨hnonterminal, ?_⟩
  cases hfound : finding verifiers before other.taskRunId with
  | untouched => simp [hfound, Finding.conclusive] at hconclusive
  | stillRunning => simp [hfound, Finding.conclusive] at hconclusive
  | manual => simp [hfound, Finding.conclusive] at hconclusive
  | repair attempt target disposition =>
      obtain ⟨hlatest, hrepair⟩ := finding_eq_repair hfound
      rw [hfound] at hrows
      obtain ⟨stored, -, hstatus, hstored, -⟩ := hrows
      rw [hstored] at hnext
      cases hnext
      obtain ⟨hterminal, hvalue⟩ := value_of_repairTarget hrepair
      exact ⟨attempt, hlatest, Or.inl ⟨hterminal, hstatus ▸ hvalue⟩⟩
  | settle attempt attemptTarget target disposition =>
      obtain ⟨hlatest, hopenAttempt, hrefs, status, hconclusion, hreturned⟩ :=
        finding_eq_settle hfound
      obtain ⟨hattempt, hattemptOwner⟩ := mem_of_latestAttempt hlatest
      rw [hfound] at hrows
      obtain ⟨nextAttempt, stored, hidentity, hattemptStatus, -, hstatus, hstored,
        hattempts⟩ := hrows
      rw [hstored] at hnext
      cases hnext
      refine ⟨attempt, hlatest, Or.inr ⟨hrefs, status, nextAttempt, disposition, hreturned,
        ?_, ?_⟩⟩
      · rw [hattemptStatus, hstatus]
        exact hconclusion
      · have hmemAfter : nextAttempt ∈ after.attemptsOf other.taskRunId := by
          rw [hattempts, replaceAttempt, List.mem_map]
          refine ⟨attempt, ?_, by simp [hidentity.1]⟩
          simpa [MemoryState.attemptsOf, hattemptOwner] using hattempt
        have hrowAfter : nextAttempt ∈ after.taskAttempts.rows :=
          List.mem_of_mem_filter hmemAfter
        rw [hidentity.1]
        exact Table.find?_of_mem _ hrowAfter

/-- (b) of the conservative pass, for the attempts. -/
theorem Effect.attempts {verifiers : Verifiers} {runId : WorkflowRunId}
    {before after : MemoryState} (heffect : Effect verifiers runId before after)
    (taskRunId : TaskRunId) :
    (after.attemptsOf taskRunId).map (fun attempt =>
        (attempt.attemptId, attempt.attemptNumber)) =
      (before.attemptsOf taskRunId).map fun attempt =>
        (attempt.attemptId, attempt.attemptNumber) := by
  rcases heffect.tasks taskRunId with hsame | ⟨taskRun, -, rfl, hconclusive, hrows⟩
  · rw [hsame.attempts]
  cases hfound : finding verifiers before taskRun.taskRunId with
  | untouched => simp [hfound, Finding.conclusive] at hconclusive
  | stillRunning => simp [hfound, Finding.conclusive] at hconclusive
  | manual => simp [hfound, Finding.conclusive] at hconclusive
  | repair attempt target disposition =>
      rw [hfound] at hrows
      obtain ⟨-, -, -, -, hattempts⟩ := hrows
      rw [hattempts]
  | settle attempt attemptTarget target disposition =>
      obtain ⟨hmem, -⟩ := Finding.attempt_mem hfound
      rw [hfound] at hrows
      obtain ⟨nextAttempt, -, hidentity, -, -, -, -, hattempts⟩ := hrows
      rw [hattempts, replaceAttempt, List.map_map]
      apply List.map_congr_left
      intro other hother
      by_cases hkey : other.attemptId = nextAttempt.attemptId
      · have hrow : other ∈ before.taskAttempts.rows := List.mem_of_mem_filter hother
        have hsame : other = attempt :=
          before.taskAttempts.eq_of_mem hrow hmem (hkey.trans hidentity.1.symm)
        subst hsame
        simp [hkey, hidentity.2.2.1]
      · simp [hkey]

/-- (b) of the conservative pass, for the tasks of other runs. -/
theorem Effect.otherTasks {verifiers : Verifiers} {runId : WorkflowRunId}
    {before after : MemoryState} (heffect : Effect verifiers runId before after)
    {taskRunId : TaskRunId} (hother : ∀ taskRun ∈ before.taskRuns.find? taskRunId,
      taskRun.workflowRunId ≠ runId) : SameRows before after taskRunId := by
  rcases heffect.tasks taskRunId with hsame | ⟨taskRun, hopen, rfl, -, -⟩
  · exact hsame
  · obtain ⟨hrow, howner, -⟩ := mem_openTasks.mp hopen
    exact absurd howner (hother taskRun (Table.find?_of_mem _ hrow))

/-- A task assessed as manual has no conclusive finding. -/
theorem finding_of_manual {verifiers : Verifiers} {store : MemoryState}
    {taskRun : TaskRun}
    (hmanual : (taskAssessment store taskRun).disposition = .manualRequired) :
    (finding verifiers store taskRun.taskRunId).conclusive = false := by
  unfold taskAssessment classifyTask at hmanual
  unfold finding
  cases hlatest : latestAttempt store taskRun.taskRunId with
  | none => rfl
  | some attempt =>
      rw [hlatest] at hmanual
      simp only at hmanual ⊢
      by_cases htask : taskRun.status.isTerminal = true
      · simp [htask] at hmanual
      by_cases hattempt : attempt.status.isTerminal = true
      · simp [htask, hattempt] at hmanual
      have hnone := (repairTarget_eq_none_iff attempt.status).mpr (by simpa using hattempt)
      rw [hnone]
      by_cases hrefs : store.listExternalRunRefs attempt.attemptId = []
      · simp [hrefs, observedStatuses, attemptFinding, Finding.conclusive]
      · simp [htask, hattempt, hrefs] at hmanual

section SecondPass

variable {verifiers : Verifiers} {runId : WorkflowRunId} {before middle : World}

/-- A task settled on evidence is terminal. -/
theorem terminal_of_settled {found : Finding} {taskRun next : TaskRun}
    {store after : MemoryState} (hfound : finding verifiers store taskRun.taskRunId = found)
    (hconclusive : found.conclusive = true) (hrows : found.RowsAfter taskRun store after)
    (hnext : after.taskRuns.find? taskRun.taskRunId = some next) :
    next.status.isTerminal = true := by
  cases found with
  | untouched => simp [Finding.conclusive] at hconclusive
  | stillRunning => simp [Finding.conclusive] at hconclusive
  | manual => simp [Finding.conclusive] at hconclusive
  | repair attempt target disposition =>
      obtain ⟨stored, -, hstatus, hstored, -⟩ := hrows
      rw [hstored] at hnext
      cases hnext
      rw [hstatus]
      exact (terminal_of_repairTarget (finding_eq_repair hfound).2).1
  | settle attempt attemptTarget target disposition =>
      obtain ⟨-, -, -, status, hconclusion, -⟩ := finding_eq_settle hfound
      obtain ⟨-, stored, -, -, -, hstatus, hstored, -⟩ := hrows
      rw [hstored] at hnext
      cases hnext
      rw [hstatus]
      exact (terminal_of_conclusion hconclusion).2.1

/-- A task that a pass left open is as it was, and nothing settles it. -/
theorem TasksSettled.open_before
    (hsettled : TasksSettled verifiers (openTasks before.store runId) before middle)
    {taskRun : TaskRun} (hmem : taskRun ∈ openTasks middle.store runId) :
    taskRun ∈ openTasks before.store runId ∧
      (finding verifiers before.store taskRun.taskRunId).conclusive = false ∧
      finding verifiers middle.store taskRun.taskRunId =
        finding verifiers before.store taskRun.taskRunId := by
  obtain ⟨hrow, howner, hopen⟩ := mem_openTasks.mp hmem
  have hfind := Table.find?_of_mem _ hrow
  have hafter : ∀ other ∈ openTasks before.store runId,
      other.taskRunId = taskRun.taskRunId →
      (finding verifiers before.store taskRun.taskRunId).conclusive = false := by
    intro other hother hid
    by_contra hnot
    have hrows := hsettled.settled other hother
    rw [← hid] at hnot hfind
    have hterminal := terminal_of_settled rfl (by simpa using hnot) hrows hfind
    simp [hopen] at hterminal
  rcases hsettled.tasks taskRun.taskRunId with hsame | ⟨other, hother, hid, hconclusive, -⟩
  · have hbefore : taskRun ∈ openTasks before.store runId := by
      rw [hsame.taskRun] at hfind
      exact mem_openTasks.mpr ⟨Table.mem_of_find? hfind, howner, hopen⟩
    exact ⟨hbefore, hafter taskRun hbefore rfl,
      finding_congr hsame.attempts hsettled.records.externalRefs⟩
  · simp [hafter other hother hid] at hconclusive

/-- A task without a conclusive finding is still open after the pass. -/
theorem TasksSettled.open_after
    (hsettled : TasksSettled verifiers (openTasks before.store runId) before middle)
    {taskRun : TaskRun} (hmem : taskRun ∈ openTasks before.store runId)
    (hopen : (finding verifiers before.store taskRun.taskRunId).conclusive = false) :
    taskRun ∈ openTasks middle.store runId := by
  obtain ⟨hrow, howner, hstatus⟩ := mem_openTasks.mp hmem
  have hsame := (hsettled.settled taskRun hmem).same hopen
  have hfind := hsame.taskRun.trans (Table.find?_of_mem _ hrow)
  exact mem_openTasks.mpr ⟨Table.mem_of_find? hfind, howner, hstatus⟩

theorem TasksSettled.unresolved_iff
    (hsettled : TasksSettled verifiers (openTasks before.store runId) before middle) :
    Unresolved verifiers middle.store runId ↔ Unresolved verifiers before.store runId := by
  constructor
  · rintro ⟨taskRun, hmem, hdisposition⟩
    obtain ⟨hbefore, -, hfound⟩ := hsettled.open_before hmem
    rw [hfound] at hdisposition
    exact ⟨taskRun, hbefore, hdisposition⟩
  · rintro ⟨taskRun, hmem, hdisposition⟩
    have hopen : (finding verifiers before.store taskRun.taskRunId).conclusive = false := by
      cases hfound : finding verifiers before.store taskRun.taskRunId with
      | untouched => rfl
      | stillRunning => rfl
      | manual => rfl
      | repair attempt target disposition =>
          have hrepair := (finding_eq_repair hfound).2
          cases hattempt : attempt.status <;> rw [hattempt] at hrepair <;>
            simp [repairTarget] at hrepair <;> obtain ⟨-, rfl⟩ := hrepair <;>
            simp [hfound, Finding.disposition] at hdisposition
      | settle attempt attemptTarget target disposition =>
          obtain ⟨-, -, -, status, hconclusion, -⟩ := finding_eq_settle hfound
          cases status <;> simp [conclusion] at hconclusion <;>
            obtain ⟨-, -, rfl⟩ := hconclusion <;>
            simp [hfound, Finding.disposition] at hdisposition
    have hmiddle := hsettled.open_after hmem hopen
    obtain ⟨-, -, hfound⟩ := hsettled.open_before hmiddle
    exact ⟨taskRun, hmiddle, by rwa [hfound]⟩

/-- After a pass the verdict is reached or there is none. -/
theorem settled_of_workflowVerdict {status target : WorkflowRunStatus}
    {statuses : List TaskRunStatus} (hverdict : workflowVerdict status statuses = some target) :
    target.isTerminal = true ∨
      (target = .running ∧ workflowVerdict .running statuses = none) := by
  unfold workflowVerdict at hverdict ⊢
  split at hverdict
  · cases hverdict
  split at hverdict
  · exact Or.inl (by cases hverdict; rfl)
  split at hverdict
  · exact Or.inl (by cases hverdict; rfl)
  split at hverdict
  · exact Or.inl (by cases hverdict; rfl)
  split at hverdict
  · exact Or.inl (by cases hverdict; rfl)
  split at hverdict
  · next hunknown hfailed htimedOut hcancelled hsucceeded hstatus =>
    cases hverdict
    refine Or.inr ⟨rfl, ?_⟩
    rw [if_neg hunknown, if_neg hfailed, if_neg htimedOut, if_neg hcancelled,
      if_neg hsucceeded]
    simp
  · cases hverdict

/-- A conclusive finding is the only one that asks for a transition. -/
theorem Finding.legal_of_open {found : Finding} {taskRun : TaskRun}
    (hopen : found.conclusive = false) : found.Legal taskRun := by
  cases found with
  | untouched => trivial
  | stillRunning => trivial
  | manual => trivial
  | repair attempt target disposition => simp [conclusive] at hopen
  | settle attempt attemptTarget target disposition => simp [conclusive] at hopen

section Quiet

variable {run : WorkflowRun} {after : World} (hquiet : ¬ Acts verifiers run before)

include hquiet

/-- Where a pass does not act it changes nothing. -/
theorem Passed.eq_of_not_acts (hpassed : Passed verifiers run before after) :
    after = before := by
  unfold Passed at hpassed
  split at hpassed
  · exact hpassed
  next hterminal =>
  have hopen : run.status.isTerminal = false := by simpa using hterminal
  obtain ⟨middle, hsettled, hunresolved, hresolved⟩ := hpassed
  have hidle : middle = before := by
    apply hsettled.idle
    intro taskRun hmem
    by_contra hconclusive
    exact hquiet ⟨hopen, Or.inl ⟨taskRun, hmem, by simpa using hconclusive⟩⟩
  by_cases hleft : Unresolved verifiers before.store run.runId
  · rw [hunresolved hleft, hidle]
  · have hcascade := hresolved hleft
    have hnone : workflowVerdict run.status
        ((middle.store.listTaskRuns run.runId).map TaskRun.status) = none := by
      by_contra hverdict
      exact hquiet ⟨hopen, Or.inr ⟨hleft, middle, hsettled, hverdict⟩⟩
    simp only [RunSettled, hnone] at hcascade
    rw [hcascade, hidle]

/-- Where a pass does not act it is not refused. -/
theorem not_refused_of_not_acts : ¬ Refused verifiers run before := by
  rintro ⟨hopen, ⟨taskRun, hmem, hillegal⟩ | ⟨hleft, middle, hsettled, target, hverdict, -⟩⟩
  · have hconclusive : (finding verifiers before.store taskRun.taskRunId).conclusive = true := by
      by_contra hnot
      exact hillegal (Finding.legal_of_open (by simpa using hnot))
    exact hquiet ⟨hopen, Or.inl ⟨taskRun, hmem, hconclusive⟩⟩
  · exact hquiet ⟨hopen, Or.inr ⟨hleft, middle, hsettled, by simp [hverdict]⟩⟩

end Quiet

/-- Where the tasks are settled a pass over the run asks for nothing but what the
verdict on the run says. -/
theorem TasksSettled.not_acts {run : WorkflowRun} {after : World}
    (hsettled : TasksSettled verifiers (openTasks before.store run.runId) before middle)
    (htables : after.store.taskRuns = middle.store.taskRuns ∧
      after.store.taskAttempts = middle.store.taskAttempts ∧
      after.store.externalRefs = middle.store.externalRefs)
    (hverdict : run.status.isTerminal = false →
      ¬ Unresolved verifiers before.store run.runId → workflowVerdict run.status
        ((after.store.listTaskRuns run.runId).map TaskRun.status) = none) :
    ¬ Acts verifiers run after := by
  obtain ⟨htasks, hattempts, hrefs⟩ := htables
  have hopen : openTasks after.store run.runId = openTasks middle.store run.runId := by
    simp [openTasks, MemoryState.listTaskRuns, htasks]
  have hfinding : ∀ taskRunId, finding verifiers after.store taskRunId =
      finding verifiers middle.store taskRunId := fun taskRunId =>
    finding_congr (by simp [MemoryState.attemptsOf, hattempts]) hrefs
  have hinconclusive : ∀ taskRun ∈ openTasks after.store run.runId,
      (finding verifiers after.store taskRun.taskRunId).conclusive = false := by
    intro taskRun hmem
    rw [hopen] at hmem
    obtain ⟨-, hbefore, hfound⟩ := hsettled.open_before hmem
    rw [hfinding, hfound, hbefore]
  rintro ⟨hstatus, ⟨taskRun, hmem, hconclusive⟩ | ⟨hleft, last, hlast, hsome⟩⟩
  · simp [hinconclusive taskRun hmem] at hconclusive
  · have hunresolved : ¬ Unresolved verifiers before.store run.runId := by
      rw [← hsettled.unresolved_iff]
      rintro ⟨taskRun, hmem, hdisposition⟩
      exact hleft ⟨taskRun, hopen ▸ hmem, by rwa [hfinding]⟩
    rw [hlast.idle hinconclusive] at hsome
    exact hsome (hverdict hstatus hunresolved)

/-- After a pass that returns, another has nothing to do. -/
theorem Passed.not_acts {run : WorkflowRun} {after : World}
    (hpassed : Passed verifiers run before after)
    (hrun : before.store.workflowRuns.find? run.runId = some run) :
    ∃ last, after.store.workflowRuns.find? run.runId = some last ∧
      last.runId = run.runId ∧ ¬ Acts verifiers last after := by
  unfold Passed at hpassed
  split at hpassed
  · next hterminal =>
    subst hpassed
    exact ⟨run, hrun, rfl, fun hacts => absurd hacts.1 (by simp [hterminal])⟩
  next hterminal =>
  obtain ⟨middle, hsettled, hunresolved, hresolved⟩ := hpassed
  have hmiddle : middle.store.workflowRuns.find? run.runId = some run := by
    rw [hsettled.records.workflowRuns, hrun]
  by_cases hleft : Unresolved verifiers before.store run.runId
  · rw [hunresolved hleft]
    exact ⟨run, hmiddle, rfl, hsettled.not_acts ⟨rfl, rfl, rfl⟩ fun _ hnot =>
      absurd hleft hnot⟩
  · have hcascade := hresolved hleft
    cases hverdict : workflowVerdict run.status
        ((middle.store.listTaskRuns run.runId).map TaskRun.status) with
    | none =>
        simp only [RunSettled, hverdict] at hcascade
        rw [hcascade]
        exact ⟨run, hmiddle, rfl, hsettled.not_acts ⟨rfl, rfl, rfl⟩ fun _ _ => hverdict⟩
    | some target =>
        simp only [RunSettled, hverdict] at hcascade
        obtain ⟨-, next, at_, hidentity, hstatus, rfl⟩ := hcascade
        refine ⟨next, ?_, hidentity.1.symm, ?_⟩
        · rw [MemoryState.workflowRuns_afterWorkflowRun, hidentity.1,
            Table.find?_set_self]
        · rw [hidentity.1] at hsettled hleft hverdict
          apply hsettled.not_acts ⟨by simp, by simp, by simp⟩
          intro hopen _
          rcases settled_of_workflowVerdict hverdict with hended | ⟨hrunning, hnone⟩
          · rw [hstatus, hended] at hopen
            cases hopen
          · rw [hstatus, hrunning]
            simpa [MemoryState.listTaskRuns] using hnone

end SecondPass

/-- The promise of a pass over a run that returns. -/
structure Conservative (verifiers : Verifiers) (runId : WorkflowRunId)
    (before after : World) : Prop where
  changed : ∀ taskRun ∈ before.store.taskRuns.rows, ∃ next,
    after.store.taskRuns.find? taskRun.taskRunId = some next ∧
      (next.status ≠ taskRun.status →
        ChangedOnEvidence verifiers before.store after.store taskRun next)
  attempts : ∀ taskRunId,
    (after.store.attemptsOf taskRunId).map (fun attempt =>
        (attempt.attemptId, attempt.attemptNumber)) =
      (before.store.attemptsOf taskRunId).map fun attempt =>
        (attempt.attemptId, attempt.attemptNumber)
  externalRefs : after.store.externalRefs = before.store.externalRefs
  outputCheckpoints : after.store.outputCheckpoints = before.store.outputCheckpoints
  manifests : after.store.manifests = before.store.manifests
  otherRuns : ∀ other, other ≠ runId →
    after.store.workflowRuns.find? other = before.store.workflowRuns.find? other
  otherTasks : ∀ taskRunId,
    (∀ taskRun ∈ before.store.taskRuns.find? taskRunId, taskRun.workflowRunId ≠ runId) →
      SameRows before.store after.store taskRunId
  terminal : ∀ run ∈ before.store.workflowRuns.find? runId,
    run.status.isTerminal = true → after = before
  manual : ∀ assessment last,
    (assess runId).Runs (reconciling verifiers) before (.ok assessment) last →
      ∀ item ∈ assessment.taskAssessments, item.disposition = .manualRequired →
        SameRows before.store after.store item.taskRunId
  again : ∀ result last,
    (reconcile runId).Runs (reconciling verifiers) after result last →
      last = after ∧ ∃ report, result = .ok report

section Store

variable {verifiers : Verifiers} {runId : WorkflowRunId} {before after : World}

/-- A pass that returns has found its run. -/
theorem exists_run_of_reconcile {report : ReconciliationReport}
    (hruns : (reconcile runId).Runs (reconciling verifiers) before (.ok report) after) :
    ∃ run, before.store.workflowRuns.find? runId = some run := by
  rcases Memory.getWorkflowRun_cases runId before.store with ⟨run, hrun, -⟩ | ⟨-, hmissing⟩
  · exact ⟨run, hrun⟩
  have hcalm := (verified_reconciling verifiers).toUndisturbed
  have hmeets : (reconcile runId).Meets (reconcilingContract verifiers)
      (Ends (fun _ _ => False) fun _ _ => True) before := by
    unfold reconcile assess
    rw [meets_bind, meets_bind]
    exact meets_read hcalm hmissing trivial
  exact (hmeets.of_runs hruns).elim

/-- No row of the store is lost in a pass. -/
theorem Effect.kept {store last : MemoryState} (heffect : Effect verifiers runId store last)
    {taskRun : TaskRun} (hmem : taskRun ∈ store.taskRuns.rows) :
    ∃ next, last.taskRuns.find? taskRun.taskRunId = some next := by
  rcases heffect.tasks taskRun.taskRunId with hsame | ⟨other, -, hid, hconclusive, hrows⟩
  · exact ⟨taskRun, hsame.taskRun.trans (Table.find?_of_mem _ hmem)⟩
  rw [← hid] at hconclusive hrows ⊢
  cases hfound : finding verifiers store other.taskRunId with
  | untouched => simp [hfound, Finding.conclusive] at hconclusive
  | stillRunning => simp [hfound, Finding.conclusive] at hconclusive
  | manual => simp [hfound, Finding.conclusive] at hconclusive
  | repair attempt target disposition =>
      rw [hfound] at hrows
      obtain ⟨next, -, -, hnext, -⟩ := hrows
      exact ⟨next, hnext⟩
  | settle attempt attemptTarget target disposition =>
      rw [hfound] at hrows
      obtain ⟨-, next, -, -, -, -, hnext, -⟩ := hrows
      exact ⟨next, hnext⟩

/-- (d) of the conservative pass. -/
theorem Effect.manual {store last : MemoryState} (heffect : Effect verifiers runId store last)
    {taskRun : TaskRun} (hmanual : (taskAssessment store taskRun).disposition = .manualRequired) :
    SameRows store last taskRun.taskRunId := by
  have hopen : (finding verifiers store taskRun.taskRunId).conclusive = false :=
    finding_of_manual hmanual
  rcases heffect.tasks taskRun.taskRunId with hsame | ⟨other, -, hid, hconclusive, -⟩
  · exact hsame
  · rw [hopen] at hconclusive
    cases hconclusive

/-- What a pass promises about the run and the store, from how it ended. -/
theorem Passed.conservative {run : WorkflowRun} (hpassed : Passed verifiers run before after)
    (hrun : before.store.workflowRuns.find? run.runId = some run) :
    Conservative verifiers run.runId before after := by
  have heffect := hpassed.effect
  refine ⟨?_, heffect.attempts, heffect.externalRefs, heffect.outputCheckpoints,
    heffect.manifests, heffect.workflowRuns, fun taskRunId => heffect.otherTasks, ?_, ?_, ?_⟩
  · intro taskRun hmem
    obtain ⟨next, hnext⟩ := heffect.kept hmem
    exact ⟨next, hnext, heffect.changed hmem hnext⟩
  · intro stored hstored hterminal
    rw [hrun] at hstored
    cases hstored
    simpa [Passed, hterminal] using hpassed
  · intro assessment last hassess item hitem hmanual
    have hmeets : (assess run.runId).Meets (reconcilingContract verifiers)
        (Ends (fun value _ => value = runAssessment before.store run) fun _ _ => False)
        before := meets_assess (verified_reconciling verifiers) hrun rfl
    have hvalue : assessment = runAssessment before.store run := hmeets.of_runs hassess
    subst hvalue
    obtain ⟨taskRun, -, rfl⟩ := List.mem_map.mp hitem
    rw [taskAssessment, taskRunId_classifyTask]
    exact heffect.manual hmanual
  · intro result last hagain
    obtain ⟨stored, hstored, hid, hquiet⟩ := hpassed.not_acts hrun
    rw [← hid] at hstored hagain
    have hends := (meets_reconcile (verified_reconciling verifiers) hstored).of_runs hagain
    cases result with
    | ok report => exact ⟨hends.2.eq_of_not_acts hquiet, report, rfl⟩
    | error error =>
        rcases hends with ⟨-, hacts⟩ | ⟨hrefused, -⟩
        · exact absurd hacts hquiet
        · exact absurd hrefused (not_refused_of_not_acts hquiet)

/-- A pass that returns is conservative, whatever the store contains. -/
theorem reconcile_conservative {report : ReconciliationReport}
    (hruns : (reconcile runId).Runs (reconciling verifiers) before (.ok report) after) :
    Conservative verifiers runId before after := by
  obtain ⟨run, hrun⟩ := exists_run_of_reconcile hruns
  have hid : run.runId = runId := Table.key_of_find? hrun
  subst hid
  exact ((meets_reconcile (verified_reconciling verifiers) hrun).of_runs hruns).2.conservative
    hrun

end Store

section Witness

/-- A run whose process ended between the success of an attempt and that of its
task. -/
def laggingWorld : World where
  store := ((MemoryState.empty.withWorkflowRun {
    runId := ⟨.lit "run-1"⟩, workflowName := .lit "orders", workflowVersion := .lit "1",
    definitionFingerprint := .lit "sha256:d", planFingerprint := .lit "sha256:p",
    correlation := .new ⟨.lit "correlation-1"⟩,
    createdAt := .first, status := .running, startedAt := some .first, endedAt := none,
    failure := none, resumeOfRunId := none, valid := rfl }).withTaskRun {
    taskRunId := ⟨.lit "task-1"⟩, workflowRunId := ⟨.lit "run-1"⟩,
    taskKey := .lit "extract", createdAt := .first, status := .running,
    startedAt := some .first, endedAt := none, skipReason := none, blockReason := none,
    failure := none, valid := rfl }).withTaskAttempt {
    attemptId := ⟨.lit "attempt-1"⟩, taskRunId := ⟨.lit "task-1"⟩, attemptNumber := 1,
    createdAt := .first, status := .succeeded, startedAt := some .first,
    endedAt := some .first, failure := none, valid := rfl }
  workers := ⟨fun _ => none, []⟩

/-- The clock stands still, and every other service has one answer. -/
def quietOracle (_ : World) : (service : Service) → service.Answer
  | .now => some ⟨0, 0, DateTime.localRange_zero, DateTime.offsetRange_zero⟩
  | .utcNow => ⟨0, 0, DateTime.localRange_zero, DateTime.offsetRange_zero⟩
  | .newWorkflowRunId => ⟨.lit "run-2"⟩
  | .newTaskRunId => ⟨.lit "task-2"⟩
  | .newTaskAttemptId => ⟨.lit "attempt-2"⟩
  | .newCorrelationId => ⟨.lit "correlation-2"⟩
  | .uniform upper => upper
  | .turn _ => ()
  | .execute _ => .foreign
  | .cancel _ _ => ⟨.confirmed, .lit "confirmed", []⟩
  | .wait _ _ => ()
  | .verify _ _ => .unregistered

theorem reconcile_conservative_lagging :
    Conservative (fun _ _ => .unregistered) ⟨.lit "run-1"⟩ laggingWorld
      ((reconcile ⟨.lit "run-1"⟩).drive quietOracle laggingWorld).2 := by
  have hallows : ∀ state service, (reconciling fun _ _ => .unregistered).allows state
      service (quietOracle state service) := by
    intro state service
    cases service <;> first | rfl | trivial
  have hruns := runs_drive (fun _ _ => rfl) hallows (reconcile ⟨.lit "run-1"⟩) laggingWorld
  have hreturns : ∃ report, ((reconcile ⟨.lit "run-1"⟩).drive quietOracle
      laggingWorld).1 = .ok report := ⟨_, rfl⟩
  obtain ⟨report, hreport⟩ := hreturns
  rw [hreport] at hruns
  exact reconcile_conservative hruns

end Witness

end PyWorkflowKit.Runtime
