import PyWorkflowKit.Planning.Plan
import PyWorkflowKit.Runtime.Services

/-!
# Selective resume

Which tasks of an earlier run a resumed run reuses.
-/

namespace PyWorkflowKit.Runtime

open PyWorkflowKit.Core PyWorkflowKit.Domain PyWorkflowKit.States
open PyWorkflowKit.Persistence PyWorkflowKit.Planning

/-- A dictionary of task outputs by task key. -/
abbrev Outputs := Table (Prod.fst : Text × PyValue → Text)

/-- A dictionary of task runs by task key. -/
abbrev TaskRunsByKey := Table TaskRun.taskKey

/-- Classified task partition and preloaded checkpoints of a resumed run. -/
structure TaskResumeClassification where
  reusedKeys : List Text
  reusedCheckpoints : Table (Prod.fst : Text × TaskOutputCheckpoint → Text)
  initialOutputs : Outputs

/-- No task is classified yet. -/
def TaskResumeClassification.empty : TaskResumeClassification := ⟨[], .empty, .empty⟩

/-- A task and its checkpoint are reused. -/
def TaskResumeClassification.reuse (classification : TaskResumeClassification)
    (key : Text) (checkpoint : TaskOutputCheckpoint) : TaskResumeClassification where
  reusedKeys := classification.reusedKeys ++ [key]
  reusedCheckpoints := classification.reusedCheckpoints.set (key, checkpoint)
  initialOutputs := classification.initialOutputs.set (key, checkpoint.output.object)

/-- The reused tasks are those with a checkpoint, whose output is preloaded. -/
structure TaskResumeClassification.Preloaded (classification : TaskResumeClassification) :
    Prop where
  checkpoint : ∀ key, key ∈ classification.reusedKeys ↔
    classification.reusedCheckpoints.find? key ≠ none
  outputs : ∀ key, classification.initialOutputs.find? key =
    (classification.reusedCheckpoints.find? key).map fun cached =>
      (cached.1, cached.2.output.object)

/-- The parent's task run of an entry that nothing but a missing checkpoint keeps
from being reused. -/
def reuseCandidate (parentTaskRuns : TaskRunsByKey) (force : List Text)
    (reusedKeys : List Text) (entry : TaskPlanEntry) : Option TaskRun :=
  if entry.key ∈ force then none
  else if ¬ entry.task.isDeterministic then none
  else
    match parentTaskRuns.find? entry.key with
    | none => none
    | some parentTaskRun =>
        if ¬ (parentTaskRun.status = .succeeded ∨ parentTaskRun.status = .reused) then none
        else if ¬ ∀ dependency ∈ entry.dependencies, dependency ∈ reusedKeys then none
        else some parentTaskRun

/-- The loop of `classify_tasks_for_resume`; a missing checkpoint is `none`. -/
def classifyEntries (parentTaskRuns : TaskRunsByKey) (force : List Text) :
    List TaskPlanEntry → TaskResumeClassification → Procedure TaskResumeClassification
  | [], classification => pure classification
  | entry :: rest, classification =>
      match reuseCandidate parentTaskRuns force classification.reusedKeys entry with
      | none => classifyEntries parentTaskRuns force rest classification
      | some parentTaskRun => do
          match ← query fun store => store.outputCheckpoints.find? parentTaskRun.taskRunId with
          | none => classifyEntries parentTaskRuns force rest classification
          | some checkpoint =>
              classifyEntries parentTaskRuns force rest
                (classification.reuse entry.key checkpoint)

/-- `classify_tasks_for_resume`. -/
def classifyTasksForResume (plan : ExecutionPlan) (parentTaskRuns : TaskRunsByKey)
    (forceRecomputeTasks : List Text) : Procedure TaskResumeClassification :=
  classifyEntries parentTaskRuns forceRecomputeTasks plan.tasks .empty

end PyWorkflowKit.Runtime
