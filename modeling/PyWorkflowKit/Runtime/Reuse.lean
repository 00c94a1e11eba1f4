import PyWorkflowKit.Runtime.Absorption
import PyWorkflowKit.Runtime.Discipline

/-!
# What a resumed run reuses

Resumes of resumes: each run reuses the largest set of tasks that it may, from records of
its parent that stay as they are.
-/

namespace PyWorkflowKit.Runtime

open PyWorkflowKit.Core PyWorkflowKit.Domain PyWorkflowKit.States
open PyWorkflowKit.Persistence PyWorkflowKit.Executors PyWorkflowKit.Planning Program

/-- A call of `resume_run` and the state that it was made in. -/
structure Resume where
  course : Course
  originalRunId : WorkflowRunId
  workflow : Submission
  correlation : Option CorrelationContext
  forceRecomputeTasks : List Text
  before : World

namespace Resume

variable (resume : Resume)

def command : RunCommand :=
  .resumeRun resume.originalRunId resume.workflow resume.correlation
    resume.forceRecomputeTasks

/-- The tasks of the parent run when it is resumed. -/
def parentTasks : List TaskRecord := resume.before.store.tasksOf resume.originalRunId

def reusedKeys : List Text := resume.course.classification.reusedKeys

/-- A new run is started for a plan that the planner made. -/
structure Begun : Prop where
  begins : resume.course.Begins resume.command resume.before
  planned : ∃ fingerprint workflow,
    Planning.compile fingerprint workflow = .ok resume.course.plan

/-- A task of the new run that was taken over from the parent run. -/
structure TakenOver (task : TaskRecord) : Prop where
  status : task.taskRun.status = .reused
  unattempted : task.attempts = []
  checkpoint : ∃ origin ∈ resume.parentTasks,
    origin.taskRun.taskKey = task.taskRun.taskKey ∧ ∃ cached copied,
      origin.checkpoint = some cached ∧ task.checkpoint = some copied ∧
        copied.output = cached.output ∧ copied.digest = cached.digest

/-- The new run reuses the largest set of tasks that are reusable with all they depend on,
these are taken over and never executed, and the parent run stays as it is. -/
structure Reuses : Prop where
  classified : ∀ classification after,
    (classifyTasksForResume resume.course.plan
        (.ofList (resume.before.store.listTaskRuns resume.originalRunId))
        resume.forceRecomputeTasks).Runs resume.course.surroundings resume.before
      (.ok classification) after → classification = resume.course.classification
  greatest : IsGreatest
    (ReusableSets (.ofList (resume.before.store.listTaskRuns resume.originalRunId))
      (checkpointIn resume.parentTasks) resume.forceRecomputeTasks resume.course.plan.tasks)
    { key | key ∈ resume.reusedKeys }
  dependents : ∀ key other, Relation.TransGen (DependsOn resume.course.plan.tasks) key other →
    key ∉ resume.reusedKeys → other ∉ resume.reusedKeys
  takenOver : ∀ rest current,
    (resume.command.procedure resume.course.runtime).Reaches resume.course.surroundings
      resume.before rest current →
    ∀ run, current.store.workflowRuns.find? resume.course.runId = some run →
      run.status ≠ .pending → ∀ task ∈ current.store.tasksOf resume.course.runId,
        task.taskRun.taskKey ∈ resume.reusedKeys → resume.TakenOver task
  unattempted : ∀ rest current,
    (resume.command.procedure resume.course.runtime).Reaches resume.course.surroundings
      resume.before rest current →
    ∀ task ∈ current.store.tasksOf resume.course.runId,
      task.taskRun.taskKey ∈ resume.reusedKeys → task.attempts = []
  unexecuted : ∀ request next current,
    (resume.command.procedure resume.course.runtime).Reaches resume.course.surroundings
      resume.before (.call (.execute request) next) current →
    request.taskKey ∉ resume.reusedKeys
  parent : ∀ rest current,
    (resume.command.procedure resume.course.runtime).Reaches resume.course.surroundings
      resume.before rest current →
    current.store.archive resume.originalRunId = resume.before.store.archive resume.originalRunId
  complete : ∀ result after,
    (resume.command.procedure resume.course.runtime).Runs resume.course.surroundings
      resume.before (.ok result) after →
    ∀ key ∈ resume.reusedKeys, ∃ task ∈ after.store.tasksOf resume.course.runId,
      task.taskRun.taskKey = key ∧ resume.TakenOver task

variable {resume : Resume}

theorem classification_eq (hbegun : resume.Begun) :
    resume.course.classification = classified
      (.ofList (resume.before.store.listTaskRuns resume.originalRunId))
      (checkpointIn resume.parentTasks) resume.forceRecomputeTasks resume.course.plan.tasks
      .empty := by
  rw [MemoryState.listTaskRuns_eq]
  exact hbegun.begins.classification

theorem classifiedSoFar (hbegun : resume.Begun) :
    ClassifiedSoFar (.ofList (resume.before.store.listTaskRuns resume.originalRunId))
      (checkpointIn resume.parentTasks) resume.forceRecomputeTasks resume.course.plan.tasks
      resume.course.classification := by
  obtain ⟨fingerprint, workflow, hplan⟩ := hbegun.planned
  rw [classification_eq hbegun]
  exact classifiedSoFar_of_first resume.course.plan.distinct (dependenciesFirst_of_compile hplan)

/-- What `classify_tasks_for_resume` answers while nobody writes the parent run. -/
theorem classified_of_begun (hbegun : resume.Begun)
    {classification : TaskResumeClassification} {after : World}
    (hruns : (classifyTasksForResume resume.course.plan
        (.ofList (resume.before.store.listTaskRuns resume.originalRunId))
        resume.forceRecomputeTasks).Runs resume.course.surroundings resume.before
      (.ok classification) after) : classification = resume.course.classification := by
  have hbegins := hbegun.begins
  have hsettled := hbegins.original resume.originalRunId rfl
  have htasks : (resume.course.archives resume.originalRunId).tasks = resume.parentTasks :=
    (congrArg MemoryState.Archive.tasks (hbegins.archives _ hsettled)).symm
  have hparents : ∀ taskRun ∈ (Table.ofList
      (resume.before.store.listTaskRuns resume.originalRunId) : TaskRunsByKey).rows,
      ∃ task ∈ (resume.course.archives resume.originalRunId).tasks,
        task.taskRun = taskRun := by
    intro taskRun hmem
    have hlisted := Table.mem_of_mem_ofList hmem
    rw [MemoryState.listTaskRuns_eq] at hlisted
    rw [htasks]
    exact List.mem_map.mp ((sortBy_perm _ _).mem_iff.mp hlisted)
  have hstands : resume.course.scene.Stands ⟨none, [], []⟩ resume.before :=
    ⟨hbegins.consistent, hbegins.fresh, hbegins.archives, hbegins.reserved⟩
  obtain ⟨last, -, -, hclassification⟩ :=
    (Course.ensures_classifyEntries hsettled hparents resume.course.plan.tasks .empty
      resume.before hstands).of_runs hruns
  rw [hclassification, htasks]
  exact (classification_eq hbegun).symm

/-- A copied task has its checkpoint from the task of the parent run with its key. -/
theorem takenOver_of_reused (hbegun : resume.Begun) {task : TaskRecord}
    (hkey : task.taskRun.taskKey ∈ resume.reusedKeys)
    (hreused : resume.course.Reused task) (hunattempted : task.attempts = []) :
    resume.TakenOver task := by
  have hclassified := classifiedSoFar hbegun
  obtain ⟨entry, hentry, hentryKey⟩ := List.mem_map.mp (hclassified.known _ hkey)
  obtain ⟨cached, hcached, copied, hcopied, houtput, hdigest⟩ := hreused.checkpoint
  rw [← hentryKey] at hcached
  obtain ⟨taskRun, hfound, -, hcheckpoint⟩ := (hclassified.copied entry hentry cached hcached).parent
  unfold checkpointIn at hcheckpoint
  obtain ⟨origin, horigin, hcheckpoint⟩ := Option.bind_eq_some_iff.mp hcheckpoint
  refine ⟨hreused.status, hunattempted, origin, List.mem_of_find?_eq_some horigin, ?_, cached,
    copied, hcheckpoint, hcopied, houtput, hdigest⟩
  have hlisted := Table.mem_of_mem_ofList (Table.mem_of_find? hfound)
  rw [MemoryState.listTaskRuns_eq] at hlisted
  obtain ⟨other, hother, hsame⟩ := List.mem_map.mp ((sortBy_perm _ _).mem_iff.mp hlisted)
  have hid : origin.taskRun.taskRunId = taskRun.taskRunId := by
    simpa using List.find?_some horigin
  have hsound := World.record_sound hbegun.begins.consistent resume.originalRunId
  have heq : origin = other :=
    hsound.unique (List.mem_of_find?_eq_some horigin) hother (by rw [hid, hsame])
  rw [heq, hsame, ← hentryKey]
  exact Table.key_of_find? hfound

end Resume

/-- When the execution of a plan ends, all its tasks are there and the run has started. -/
theorem Course.Concluded.started {course : Course} {result : WorkflowResult}
    {last : RunRecord} (hconcluded : course.Concluded result last) :
    (last.tasks.map fun task => task.taskRun.taskKey) =
        course.plan.tasks.map TaskPlanEntry.key ∧
      ∃ run, last.run = some run ∧ run.status ≠ .pending := by
  cases hconcluded with
  | @succeeded current tasks outputs calls hstatus hwalked hreports =>
      exact ⟨hwalked.keys, current, rfl, by simp [hstatus]⟩
  | @failed current before after entry done swept task outputs earlier calls evidence hplan
      hcomputed hwalked hfailed hswept hstatus hfailure hreports =>
      refine ⟨?_, current, rfl, ?_⟩
      · rw [hplan, List.map_append, List.map_append, List.map_cons, List.map_cons,
          hwalked.keys, hfailed.key, keys_of_swept hswept]
      · rw [hstatus]
        unfold workflowTerminalStatus
        split <;> simp
  | @unknown current before after entry done todo task outputs earlier calls hstage hstatus
      hkey htask hlaunched hunraised hreports =>
      exact ⟨hstage.keys hkey, current, rfl, by simp [hstatus]⟩

namespace Resume

variable {resume : Resume}

end Resume

/-- Resumes of resumes, the latest first: each resumes the run that the one before it made,
which nobody has written since it ended. -/
inductive Resumes : List Resume → Prop
  | single {resume : Resume} (hbegun : resume.Begun) : Resumes [resume]
  | resumed {resume earlier : Resume} {rest : List Resume} {after : World}
      {result : Except PyError WorkflowResult} (hearlier : Resumes (earlier :: rest))
      (hruns : (earlier.command.procedure earlier.course.runtime).Runs
        earlier.course.surroundings earlier.before result after)
      (hparent : resume.originalRunId = earlier.course.runId)
      (hkept : resume.before.store.archive earlier.course.runId =
        after.store.archive earlier.course.runId)
      (hbegun : resume.Begun) : Resumes (resume :: earlier :: rest)

section Orders

/-- The course of a resume of the orders. -/
def resumeCourse (runId originalRunId : WorkflowRunId) (before : World) : Course where
  runId := runId
  settled := fun other => other = originalRunId ∧ originalRunId ≠ runId
  answers := fun _ _ _ => True
  taskIds := fun _ => False
  attemptIds := fun _ => False
  runtime := ordersRuntime
  plan := ordersPlan .none
  classification := classificationOf (ordersPlan .none) (before.store.tasksOf originalRunId) []
  archives := before.store.archive
  unsettled := fun hsettled => hsettled.2 hsettled.1.symm

/-- The orders are resumed. -/
def resumeOrders (runId originalRunId : WorkflowRunId) (before : World) : Resume where
  course := resumeCourse runId originalRunId before
  originalRunId := originalRunId
  workflow := .definition ordersWorkflow
  correlation := none
  forceRecomputeTasks := []
  before := before

theorem begun_resumeOrders {runId originalRunId : WorkflowRunId} {before : World}
    (hother : originalRunId ≠ runId) (hconsistent : before.store.Consistent)
    (hfresh : before.record runId = ⟨none, [], []⟩) :
    (resumeOrders runId originalRunId before).Begun where
  begins := {
    compiles := compile_orders
    original := by
      rintro _ ⟨⟩
      exact ⟨rfl, hother⟩
    classification := rfl
    archives := fun _ _ => rfl
    consistent := hconsistent
    reserved := ⟨fun _ hid => hid.elim, fun _ hid => hid.elim⟩
    fresh := hfresh }
  planned := ⟨ordersRuntime.definitionFingerprint, ordersWorkflow, compile_orders⟩

/-- A run that the store does not know. -/
theorem record_of_absent {world : World} {runId : WorkflowRunId}
    (hrun : (world.store.workflowRuns.find? runId).isNone = true)
    (htasks : (world.store.tasksOf runId).isEmpty = true)
    (hcalls : (world.workers.executions.filter fun executed =>
      executed.1.context.workflowRunId = runId).isEmpty = true) :
    world.record runId = ⟨none, [], []⟩ := by
  unfold World.record
  rw [Option.isNone_iff_eq_none.mp hrun, List.isEmpty_iff.mp htasks, List.isEmpty_iff.mp hcalls]

theorem begun_failed : (resumeOrders ⟨.lit "run-2"⟩ ⟨.lit "run-1"⟩ failedWorld).Begun := by
  apply begun_resumeOrders (by decide)
  · have hbegins := begins_orders compile_orders
    have hruns := runs_answering (ordersCourse (ordersPlan .none)) loadRaises
      (fun _ _ => trivial) (ordersRuntime.run (.definition ordersWorkflow) none) emptyWorld
    exact (hbegins.onward .start hruns.reaches).consistent hbegins.consistent
  · exact record_of_absent (by decide +kernel) (by decide +kernel) (by decide +kernel)

theorem runs_resumed :
    ((resumeOrders ⟨.lit "run-2"⟩ ⟨.lit "run-1"⟩ failedWorld).command.procedure
      ordersRuntime).Runs
        (resumeOrders ⟨.lit "run-2"⟩ ⟨.lit "run-1"⟩ failedWorld).course.surroundings failedWorld
        ((ordersRuntime.resumeRun ⟨.lit "run-1"⟩ (.definition ordersWorkflow) none []).perform
          (answering ⟨.lit "run-2"⟩ loadRaises) failedWorld).1 resumedWorld :=
  runs_answering (resumeOrders ⟨.lit "run-2"⟩ ⟨.lit "run-1"⟩ failedWorld).course loadRaises
    (fun _ _ => trivial) _ failedWorld

theorem begun_resumed : (resumeOrders ⟨.lit "run-3"⟩ ⟨.lit "run-2"⟩ resumedWorld).Begun := by
  apply begun_resumeOrders (by decide)
  · exact (begun_failed.begins.onward .start runs_resumed.reaches).consistent
      begun_failed.begins.consistent
  · exact record_of_absent (by decide +kernel) (by decide +kernel) (by decide +kernel)

/-- `extract` is reused in the third run too. -/
example : (resumeOrders ⟨.lit "run-3"⟩ ⟨.lit "run-2"⟩ resumedWorld).reusedKeys =
    [.lit "extract"] := by decide +kernel

end Orders

end PyWorkflowKit.Runtime
