import PyWorkflowKit.Persistence.Runs
import PyWorkflowKit.Runtime.Attempts
import PyWorkflowKit.Runtime.Services

/-!
# The record of one run

What is recorded about one run, and what the agreement of the store says of it.
-/

namespace PyWorkflowKit.Runtime

open PyWorkflowKit.Core PyWorkflowKit.Domain PyWorkflowKit.States
open PyWorkflowKit.Persistence PyWorkflowKit.Executors

/-- The row of a run, its tasks, and the calls that executors answered for it. -/
@[ext]
structure RunRecord where
  run : Option WorkflowRun
  tasks : List TaskRecord
  executions : List (TaskExecutionRequest × Execution)

def World.record (world : World) (runId : WorkflowRunId) : RunRecord where
  run := world.store.workflowRuns.find? runId
  tasks := world.store.tasksOf runId
  executions := world.workers.executions.filter fun executed =>
    executed.1.context.workflowRunId = runId

/-- What holds of every record of a consistent store. -/
structure RunRecord.Sound (runId : WorkflowRunId) (record : RunRecord) : Prop where
  run : ∀ run ∈ record.run, run.runId = runId
  owner : ∀ task ∈ record.tasks, task.taskRun.workflowRunId = runId
  distinct : (record.tasks.map fun task => task.taskRun.taskRunId).Nodup
  attemptOwner : ∀ task ∈ record.tasks, ∀ attempt ∈ task.attempts,
    attempt.taskRunId = task.taskRun.taskRunId
  numbered : ∀ task ∈ record.tasks, task.attempts.map TaskAttempt.attemptNumber =
    numbersFromOne task.attempts.length
  distinctAttempts : (record.tasks.flatMap fun task =>
    task.attempts.map TaskAttempt.attemptId).Nodup

theorem World.record_sound {world : World} (hconsistent : world.store.Consistent)
    (runId : WorkflowRunId) : (world.record runId).Sound runId where
  run _ hrun := Table.key_of_find? hrun
  owner _ htask := (MemoryState.mem_tasksOf.mp htask).2.1
  distinct := MemoryState.nodup_taskRunIds runId
  attemptOwner task htask attempt hattempt := by
    rw [(MemoryState.mem_tasksOf.mp htask).2.2.1] at hattempt
    exact of_decide_eq_true (List.mem_filter.mp hattempt).2
  numbered task htask := by
    rw [(MemoryState.mem_tasksOf.mp htask).2.2.1]
    exact hconsistent.numbered task.taskRun.taskRunId
  distinctAttempts := MemoryState.nodup_attemptIds runId

/-- A task of the record is determined by its id. -/
theorem RunRecord.Sound.unique {runId : WorkflowRunId} {record : RunRecord}
    (hsound : record.Sound runId) {task other : TaskRecord} (htask : task ∈ record.tasks)
    (hother : other ∈ record.tasks) (hid : task.taskRun.taskRunId = other.taskRun.taskRunId) :
    task = other :=
  List.inj_on_of_nodup_map hsound.distinct htask hother hid

/-- The attempts of one task have distinct ids. -/
theorem RunRecord.Sound.nodup_attempts {runId : WorkflowRunId} {record : RunRecord}
    (hsound : record.Sound runId) {task : TaskRecord} (htask : task ∈ record.tasks) :
    (task.attempts.map TaskAttempt.attemptId).Nodup :=
  (List.nodup_flatMap.mp hsound.distinctAttempts).1 task htask

section Updates

variable {runId : WorkflowRunId} {run : Option WorkflowRun} {done todo : List TaskRecord}
  {task : TaskRecord} {executions : List (TaskExecutionRequest × Execution)}

/-- No other task of the record has the id of this one. -/
theorem RunRecord.Sound.others
    (hsound : (⟨run, done ++ task :: todo, executions⟩ : RunRecord).Sound runId) :
    (∀ other ∈ done, other.taskRun.taskRunId ≠ task.taskRun.taskRunId) ∧
      ∀ other ∈ todo, other.taskRun.taskRunId ≠ task.taskRun.taskRunId := by
  have hdistinct := hsound.distinct
  rw [List.map_append, List.map_cons, List.nodup_append, List.nodup_cons] at hdistinct
  obtain ⟨-, ⟨hnext, -⟩, hacross⟩ := hdistinct
  constructor
  · intro other hother heq
    exact hacross _ (List.mem_map_of_mem hother) _ List.mem_cons_self heq
  · intro other hother heq
    exact hnext (heq ▸ List.mem_map_of_mem hother)

/-- Changing one task of a record. -/
theorem RunRecord.Sound.modifyTask
    (hsound : (⟨run, done ++ task :: todo, executions⟩ : RunRecord).Sound runId)
    (change : TaskRecord → TaskRecord) :
    modifyTask task.taskRun.taskRunId change (done ++ task :: todo) =
      done ++ change task :: todo := by
  have hdone : Persistence.modifyTask task.taskRun.taskRunId change done = done :=
    MemoryState.modifyTask_of_absent hsound.others.1
  have htodo : Persistence.modifyTask task.taskRun.taskRunId change todo = todo :=
    MemoryState.modifyTask_of_absent hsound.others.2
  unfold Persistence.modifyTask at hdone htodo ⊢
  rw [List.map_append, List.map_cons, hdone, htodo, if_pos rfl]

/-- An earlier attempt of the same task has another id. -/
theorem RunRecord.Sound.earlier {prior : List TaskAttempt} {attempt : TaskAttempt}
    (hsound : (⟨run, done ++ task :: todo, executions⟩ : RunRecord).Sound runId)
    (hattempts : task.attempts = prior ++ [attempt]) :
    ∀ other ∈ prior, other.attemptId ≠ attempt.attemptId := by
  have hdistinct := hsound.distinctAttempts
  rw [List.flatMap_append, List.flatMap_cons, hattempts, List.map_append] at hdistinct
  have hnodup := (List.nodup_append.mp (List.nodup_append.mp hdistinct).2.1).1
  intro other hother heq
  exact (List.nodup_append.mp hnodup).2.2 _ (List.mem_map_of_mem hother) _ (by simp) heq

/-- Replacing the last attempt of a task. -/
theorem replaceAttempt_last {prior : List TaskAttempt} {attempt next : TaskAttempt}
    (hid : attempt.attemptId = next.attemptId)
    (hearlier : ∀ other ∈ prior, other.attemptId ≠ attempt.attemptId) :
    replaceAttempt next (prior ++ [attempt]) = prior ++ [next] := by
  have hprior : prior.map (fun other =>
      if other.attemptId = next.attemptId then next else other) = prior := by
    conv_rhs => rw [← List.map_id prior]
    apply List.map_congr_left
    intro other hother
    rw [if_neg (by rw [← hid]; exact hearlier other hother)]
    rfl
  unfold replaceAttempt
  rw [List.map_append, hprior]
  simp [hid]

end Updates

end PyWorkflowKit.Runtime
