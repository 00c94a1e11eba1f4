import PyWorkflowKit.Runtime.Creation
import Mathlib.Algebra.Order.BigOperators.Group.List

/-!
# What running and resuming come to

How a run and its tasks stand when the runtime returns, what holds of the attempts at
every moment, and when an executor is called.
-/

namespace PyWorkflowKit.Runtime

open PyWorkflowKit.Core PyWorkflowKit.Domain PyWorkflowKit.States
open PyWorkflowKit.Persistence PyWorkflowKit.Executors PyWorkflowKit.Planning
open PyWorkflowKit.Policies PyWorkflowKit.Authoring Program

/-- A request to run a plan, or to resume an earlier run. -/
inductive RunCommand where
  | run (workflow : Submission) (correlation : Option CorrelationContext)
  | resumeRun (originalRunId : WorkflowRunId) (workflow : Submission)
      (correlation : Option CorrelationContext) (forceRecomputeTasks : List Text)

namespace RunCommand

def workflow : RunCommand → Submission
  | run workflow _ => workflow
  | resumeRun _ workflow _ _ => workflow

/-- The run that is resumed. -/
def original : RunCommand → Option WorkflowRunId
  | run _ _ => none
  | resumeRun originalRunId _ _ _ => some originalRunId

def procedure (runtime : WorkflowRuntime) : RunCommand → Procedure WorkflowResult
  | run workflow correlation => runtime.run workflow correlation
  | resumeRun originalRunId workflow correlation forceRecomputeTasks =>
      runtime.resumeRun originalRunId workflow correlation forceRecomputeTasks

/-- What is reused of the run that is resumed. -/
def classification (plan : ExecutionPlan) (store : MemoryState) :
    RunCommand → TaskResumeClassification
  | run _ _ => .empty
  | resumeRun originalRunId _ _ forceRecomputeTasks =>
      classificationOf plan (store.tasksOf originalRunId) forceRecomputeTasks

end RunCommand

/-- The command starts a new run, while nobody writes the run that it resumes. -/
structure Course.Begins (course : Course) (command : RunCommand) (start : World) : Prop where
  compiles : course.runtime.compile command.workflow = .ok course.plan
  original : ∀ originalRunId ∈ command.original, course.settled originalRunId
  classification : course.classification = command.classification course.plan start.store
  archives : ∀ other, course.settled other → start.store.archive other = course.archives other
  consistent : start.store.Consistent
  reserved : course.Reserved start.store
  fresh : start.record course.runId = ⟨none, [], []⟩

namespace Course

variable {course : Course} {command : RunCommand} {start current after : World}

section Contract

theorem Begins.meets (hbegins : course.Begins command start) :
    (command.procedure course.runtime).Meets course.scene.contract
      (fun result after => ∃ last, course.scene.Stands last after ∧
        Ends course.Concluded course.Halted result last) start := by
  have hstands : course.scene.Stands ⟨none, [], []⟩ start :=
    ⟨hbegins.consistent, hbegins.fresh, hbegins.archives, hbegins.reserved⟩
  cases command with
  | run workflow correlation =>
      exact ensures_halted
        (ensures_run hbegins.compiles hbegins.classification correlation) start hstands
  | resumeRun originalRunId workflow correlation forceRecomputeTasks =>
      have hsettled := hbegins.original originalRunId rfl
      refine ensures_resumeRun hbegins.compiles hsettled ?_ correlation start hstands
      rw [hbegins.classification, ← hbegins.archives originalRunId hsettled]
      rfl

/-- How a run of the command ends. -/
theorem Begins.ends (hbegins : course.Begins command start)
    {result : Except PyError WorkflowResult}
    (hruns : (command.procedure course.runtime).Runs course.surroundings start result after) :
    Ends course.Concluded course.Halted result (after.record course.runId) := by
  obtain ⟨last, hstands, hlast⟩ := hbegins.meets.of_runs hruns
  have hrecord : after.record course.runId = last := hstands.record
  rw [hrecord]
  exact hlast

/-- How a run that is not resumed ends. -/
theorem Begins.ends_run {workflow : Submission} {correlation : Option CorrelationContext}
    (hbegins : course.Begins (.run workflow correlation) start)
    {result : Except PyError WorkflowResult}
    (hruns : (course.runtime.run workflow correlation).Runs course.surroundings start result
      after) :
    Ends course.Concluded course.Bad result (after.record course.runId) := by
  have hstands : course.scene.Stands ⟨none, [], []⟩ start :=
    ⟨hbegins.consistent, hbegins.fresh, hbegins.archives, hbegins.reserved⟩
  obtain ⟨last, hlast, hends⟩ :=
    (ensures_run hbegins.compiles hbegins.classification correlation start hstands).of_runs hruns
  have hrecord : after.record course.runId = last := hlast.record
  rw [hrecord]
  exact hends

end Contract

section Structure

/-- The tasks of a plan after one of them failed: those before it ran or were skipped,
those after it were skipped because of it. -/
def FailedWith (plan : ExecutionPlan) (run : WorkflowRun) (tasks : List TaskRecord)
    (status : TaskRunStatus) : Prop :=
  ∃ done failed swept evidence, tasks = done ++ failed :: swept ∧
    tasks.filter (fun task => task.taskRun.status = status) = [failed] ∧
    failed.taskRun.failure = some evidence ∧ run.failure = some evidence ∧
    (∀ task ∈ done, task.taskRun.status = .succeeded ∨ task.taskRun.status = .skipped) ∧
    ∀ task ∈ swept, task.taskRun.status = .skipped ∧
      (task.taskRun.skipReason = some .dependencyFailed ↔
        Relation.TransGen (DependsOn plan.tasks) failed.taskRun.taskKey
          task.taskRun.taskKey) ∧
      (task.taskRun.skipReason ≠ some .dependencyFailed →
        task.taskRun.skipReason = some .failFastAbort)

/-- One task of a plan has an open outcome, and those after it were not reached. -/
def OpenAt (tasks : List TaskRecord) : Prop :=
  ∃ done unknown todo, tasks = done ++ unknown :: todo ∧
    tasks.filter (fun task => task.taskRun.status = .unknownOutcome) = [unknown] ∧
    ∀ task ∈ todo, task.taskRun.status = .pending

/-- How a run and its tasks, in the order of the plan, stand when the runtime returns. -/
def TerminalStructure (plan : ExecutionPlan) (run : WorkflowRun) (tasks : List TaskRecord) :
    Prop :=
  tasks.map (fun task => task.taskRun.taskKey) = plan.tasks.map TaskPlanEntry.key ∧
    match run.status with
    | .succeeded => ∀ task ∈ tasks, task.taskRun.status = .succeeded ∨
        task.taskRun.status = .skipped ∧
          task.taskRun.skipReason = some .triggerRuleUnsatisfied
    | .failed => FailedWith plan run tasks .failed
    | .timedOut => FailedWith plan run tasks .timedOut
    | .unknownOutcome => OpenAt tasks
    | .pending | .running | .cancellationRequested | .cancelled => False

variable {tasks done todo : List TaskRecord} {task : TaskRecord} {outputs : Outputs}
  {calls : Calls} {entries : List TaskPlanEntry}

/-- One task alone has this status. -/
theorem filter_status {status : TaskRunStatus} (htask : task.taskRun.status = status)
    (hdone : ∀ other ∈ done, other.taskRun.status ≠ status)
    (htodo : ∀ other ∈ todo, other.taskRun.status ≠ status) :
    (done ++ task :: todo).filter (fun task => task.taskRun.status = status) = [task] := by
  have hnone : ∀ others : List TaskRecord, (∀ other ∈ others, other.taskRun.status ≠ status) →
      others.filter (fun task => task.taskRun.status = status) = [] := by
    intro others hothers
    rw [List.filter_eq_nil_iff]
    intro other hother
    simpa using hothers other hother
  rw [List.filter_append, List.filter_cons, hnone done hdone, hnone todo htodo]
  simp [htask]

/-- Where nothing is reused, the tasks behind ran or were skipped by their rules. -/
theorem Walked.status_of_fresh (hclass : course.classification = .empty)
    (hwalked : course.Walked entries tasks outputs calls) :
    ∀ task ∈ tasks, task.taskRun.status = .succeeded ∨ task.taskRun.status = .skipped ∧
      task.taskRun.skipReason = some .triggerRuleUnsatisfied := by
  intro task htask
  rcases hwalked.status task htask with hstatus | hskipped | ⟨-, hreused⟩
  · exact Or.inl hstatus
  · exact Or.inr hskipped
  · rw [hclass] at hreused
    cases hreused

theorem Swept.status (hclass : course.classification = .empty) {failedKey : Text}
    {entry : TaskPlanEntry} (hswept : course.Swept failedKey entry task) :
    task.taskRun.status = .skipped ∧
      (task.taskRun.skipReason = some .dependencyFailed ↔
        Relation.TransGen (DependsOn course.plan.tasks) failedKey task.taskRun.taskKey) ∧
      (task.taskRun.skipReason ≠ some .dependencyFailed →
        task.taskRun.skipReason = some .failFastAbort) := by
  have hcomputed : entry.key ∉ course.classification.reusedKeys := by
    rw [hclass]
    simp [TaskResumeClassification.empty]
  obtain ⟨hstatus, -, hreason⟩ := hswept.skipped hcomputed
  rw [hswept.key]
  rcases hreason with ⟨hdepends, hthis⟩ | ⟨hdepends, hthis⟩
  · exact ⟨hstatus, ⟨fun _ => hdepends, fun _ => hthis⟩, fun hother => absurd hthis hother⟩
  · refine ⟨hstatus, ⟨fun hother => ?_, fun hother => absurd hother hdepends⟩, fun _ => hthis⟩
    rw [hthis] at hother
    cases hother

/-- Where nothing is reused, the tasks ahead are pending. -/
theorem pending_of_fresh (hclass : course.classification = .empty)
    (hwaiting : List.Forall₂ course.Waiting entries todo) :
    ∀ task ∈ todo, task.taskRun.status = .pending := by
  intro task htask
  obtain ⟨entry, -, hthis⟩ := exists_of_forall₂_right hwaiting htask
  apply (hthis.pending _).1
  rw [hclass]
  simp [TaskResumeClassification.empty]

/-- A task and its run end alike. -/
theorem terminalStatus_eq {failure : FailureEvidence} (hcategory : failure.category ≠ .cancelled) :
    (workflowTerminalStatus failure = .failed ∧ taskTerminalStatus failure = .failed) ∨
      (workflowTerminalStatus failure = .timedOut ∧
        taskTerminalStatus failure = .timedOut) := by
  unfold workflowTerminalStatus taskTerminalStatus
  cases hkind : failure.category <;> simp_all

/-- A failed task with the tasks around it. -/
theorem failedWith_of_failed (hclass : course.classification = .empty)
    {entry : TaskPlanEntry} {before after : List TaskPlanEntry} {run : WorkflowRun}
    {swept : List TaskRecord} {evidence : FailureEvidence} {earlier : Calls}
    (hwalked : course.Walked before done outputs earlier)
    (hfailed : course.Failed entry evidence task calls)
    (hswept : List.Forall₂ (course.Swept entry.key) after swept)
    (hfailure : run.failure = some evidence) :
    FailedWith course.plan run (done ++ task :: swept) (taskTerminalStatus evidence) := by
  have hdone : ∀ other ∈ done,
      other.taskRun.status = .succeeded ∨ other.taskRun.status = .skipped :=
    fun other hother => (hwalked.status_of_fresh hclass other hother).imp_right And.left
  have hlater : ∀ other ∈ swept, other.taskRun.status = .skipped ∧
      (other.taskRun.skipReason = some .dependencyFailed ↔
        Relation.TransGen (DependsOn course.plan.tasks) entry.key other.taskRun.taskKey) ∧
      (other.taskRun.skipReason ≠ some .dependencyFailed →
        other.taskRun.skipReason = some .failFastAbort) := by
    intro other hother
    obtain ⟨_, -, hthis⟩ := exists_of_forall₂_right hswept hother
    exact hthis.status hclass
  have hterminal := taskTerminalStatus_eq hfailed.category
  refine ⟨done, task, swept, evidence, rfl, filter_status hfailed.status ?_ ?_,
    hfailed.failure, hfailure, hdone, ?_⟩
  · intro other hother
    rcases hdone other hother with heq | heq <;> rcases hterminal with heq' | heq' <;>
      simp [heq, heq']
  · intro other hother
    rcases hterminal with heq | heq <;> simp [heq, (hlater other hother).1]
  · intro other hother
    rw [hfailed.key]
    exact hlater other hother

end Structure

end Course

section Orders

/-! A workflow of two tasks, and runs of it that nobody interferes with. -/

theorem extract_notSelf : Text.lit "extract" ∉ ([] : List Text) :=
  List.not_mem_nil

theorem load_distinct : [Text.lit "extract"].Nodup :=
  List.nodup_singleton _

theorem load_notSelf : Text.lit "load" ∉ [Text.lit "extract"] := by
  decide

def extractTask (timeoutPolicy : TimeoutPolicy) : TaskDefinition where
  key := .lit "extract"
  workload := .registered ⟨.lit "orders.extract", [], none, .lit "1", Baggage.sorted_nil,
    RegisteredWorkload.keysNotBlank_nil⟩
  dependencies := []
  retryPolicy := .default
  timeoutPolicy := timeoutPolicy
  triggerRule := .allSuccess
  isDeterministic := true
  distinct := List.nodup_nil
  notSelf := extract_notSelf

def loadTask : TaskDefinition where
  key := .lit "load"
  workload := .registered ⟨.lit "orders.load", [], none, .lit "1", Baggage.sorted_nil,
    RegisteredWorkload.keysNotBlank_nil⟩
  dependencies := [.lit "extract"]
  retryPolicy := .default
  timeoutPolicy := .none
  triggerRule := .allSuccess
  isDeterministic := true
  distinct := load_distinct
  notSelf := load_notSelf

/-- `load` follows `extract`. -/
def ordersPlan (timeoutPolicy : TimeoutPolicy) : ExecutionPlan where
  workflowName := .lit "orders"
  workflowVersion := .lit "1"
  definitionFingerprint := .lit "sha256:d"
  failurePolicy := .failFast
  tasks := [⟨extractTask timeoutPolicy, 0, 0, ⟨.lit "inline", .lit "registered", true⟩, []⟩,
    ⟨loadTask, 1, 1, ⟨.lit "inline", .lit "registered", true⟩, []⟩]
  topologicalOrder := [.lit "extract", .lit "load"]
  groups := [[.lit "extract"], [.lit "load"]]
  requiredCapabilities := ["executor:inline", "workload:registered"]
  requiredIntegrations := []
  diagnostics := [topologyDiagnostic 2 1]
  nonempty := by simp
  distinct := by
    have hdistinct : [Text.lit "extract", Text.lit "load"].Nodup := by decide
    exact hdistinct
  contiguous := rfl
  ordered := rfl
  grouped := rfl
  groupsAgree := by
    have hne : Text.lit "extract" ≠ Text.lit "load" := by decide
    simp [GroupsAgree, TaskPlanEntry.key, extractTask, loadTask, hne, hne.symm]

def ordersWorkflow : WorkflowDefinition where
  name := .lit "orders"
  tasks := [extractTask .none, loadTask]
  version := .lit "1"
  failurePolicy := .failFast
  nonempty := by simp
  distinct := by decide
  valid := by decide +kernel

def ordersRuntime : WorkflowRuntime where
  executors := .ofList
    [⟨⟨.lit "inline", [.lit "registered"], false, true, .unsupported⟩, false⟩]
  definitionFingerprint _ := .lit "sha256:d"
  planFingerprint _ := .lit "sha256:p"

theorem compile_orders : ordersRuntime.compile (.definition ordersWorkflow) =
    .ok (ordersPlan .none) := by decide +kernel

/-- A text that is longer than these together. -/
def another (texts : List Text) : Text :=
  ⟨String.ofList (List.replicate ((texts.map fun text => text.value.toList.length).sum + 1) '#'),
    by
      rw [isBlank, String.toList_ofList, List.replicate_succ]
      rfl⟩

theorem another_not_mem (texts : List Text) : another texts ∉ texts := by
  intro hmem
  have hlength : (another texts).value.toList.length =
      (texts.map fun text => text.value.toList.length).sum + 1 := by
    simp [another]
  have hle := List.single_le_sum (fun _ _ => Nat.zero_le _) _
    (List.mem_map_of_mem (f := fun text : Text => text.value.toList.length) hmem)
  omega

/-- The clock stands still, executors answer as `execute` says, and ids are new. -/
def answering (runId : WorkflowRunId) (execute : TaskExecutionRequest → Execution)
    (world : World) : (service : Service) → World × service.Answer
  | .now => (world, some ⟨0, 0, DateTime.localRange_zero, DateTime.offsetRange_zero⟩)
  | .utcNow => (world, ⟨0, 0, DateTime.localRange_zero, DateTime.offsetRange_zero⟩)
  | .newWorkflowRunId => (world, runId)
  | .newTaskRunId => (world, ⟨another (world.store.taskRuns.rows.map fun taskRun =>
      taskRun.taskRunId.value)⟩)
  | .newTaskAttemptId => (world, ⟨another (world.store.taskAttempts.rows.map fun attempt =>
      attempt.attemptId.value)⟩)
  | .newCorrelationId => (world, ⟨.lit "correlation"⟩)
  | .uniform _ => (world, .finite 0)
  | .turn _ => (world, ())
  | .execute request =>
      ({ world with workers := { world.workers with
          executions := world.workers.executions ++ [(request, execute request)] } },
        execute request)
  | .cancel _ _ => (world, ⟨.unsupported, .lit "unsupported", []⟩)
  | .wait _ _ => (world, ())
  | .verify _ _ => (world, .unregistered)

/-- Nothing was run yet. -/
def emptyWorld : World := ⟨.empty, ⟨fun _ => none, []⟩⟩

/-- The first run of a plan. -/
def ordersCourse (plan : ExecutionPlan) : Course where
  runId := ⟨.lit "run-1"⟩
  settled := fun _ => False
  answers := fun _ _ _ => True
  taskIds := fun _ => False
  attemptIds := fun _ => False
  runtime := ordersRuntime
  plan := plan
  classification := .empty
  archives := emptyWorld.store.archive
  unsettled := id

theorem begins_orders {workflow : Submission} {plan : ExecutionPlan}
    (hplan : ordersRuntime.compile workflow = .ok plan) :
    (ordersCourse plan).Begins (.run workflow none) emptyWorld where
  compiles := hplan
  original := by simp [RunCommand.original]
  classification := rfl
  archives _ _ := rfl
  consistent := MemoryState.consistent_empty
  reserved := ⟨fun _ hid => hid.elim, fun _ hid => hid.elim⟩
  fresh := rfl

/-- The surroundings of a run allow these answers. -/
theorem drift_answering (course : Course) (execute : TaskExecutionRequest → Execution)
    (hanswers : ∀ world service, course.answers
      ((answering course.runId execute world service).1.record course.runId) service
      (answering course.runId execute world service).2) :
    (∀ world, course.surroundings.drift none world world) ∧
      ∀ world service,
        course.surroundings.drift (some service) world
            (answering course.runId execute world service).1 ∧
          course.surroundings.allows (answering course.runId execute world service).1 service
            (answering course.runId execute world service).2 := by
  have hsame : ∀ moment (world : World),
      (∀ request, moment ≠ some (Service.execute request)) →
      course.Elsewhere moment world world := by
    intro moment world hmoment
    refine ⟨id, ?_, fun _ _ => rfl, id, fun _ _ => rfl⟩
    unfold Drifts
    split
    · next request => exact absurd rfl (hmoment request)
    · rfl
  refine ⟨fun world => hsame none world (by simp), fun world service => ?_⟩
  cases service with
  | execute request =>
      have hrecord : (answering course.runId execute world (.execute request)).1.record
          course.runId = { world.record course.runId with
            executions := (world.record course.runId).executions ++
              [(request, execute request)].filter fun executed =>
                executed.1.context.workflowRunId = course.runId } := by
        simp [World.record, answering]
      refine ⟨⟨id, ?_, fun _ _ => rfl, id, fun _ _ => rfl⟩, hanswers world _, ?_⟩
      · rw [hrecord]
        by_cases hown : request.context.workflowRunId = course.runId
        · simp only [Drifts, if_pos hown]
          exact ⟨execute request, by simp [hown]⟩
        · simp only [Drifts, if_neg hown]
          simp [hown]
      · intro hown
        rw [hrecord]
        simp [hown, answering]
  | _ => exact ⟨hsame _ world (by simp), hanswers world _, by simp [Faithful, answering]⟩

theorem runs_answering {α : Type} (course : Course)
    (execute : TaskExecutionRequest → Execution)
    (hanswers : ∀ world service, course.answers
      ((answering course.runId execute world service).1.record course.runId) service
      (answering course.runId execute world service).2)
    (procedure : Procedure α) (world : World) :
    procedure.Runs course.surroundings world
      (procedure.perform (answering course.runId execute) world).1
      (procedure.perform (answering course.runId execute) world).2 :=
  runs_perform (drift_answering course execute hanswers).1
    (drift_answering course execute hanswers).2 procedure world

theorem reaches_answering {α : Type} (course : Course)
    (execute : TaskExecutionRequest → Execution)
    (hanswers : ∀ world service, course.answers
      ((answering course.runId execute world service).1.record course.runId) service
      (answering course.runId execute world service).2)
    (rounds : Nat) (procedure : Procedure α) (world : World) :
    procedure.Reaches course.surroundings world
      (procedure.advance (answering course.runId execute) rounds world).1
      (procedure.advance (answering course.runId execute) rounds world).2 :=
  reaches_advance (drift_answering course execute hanswers).1
    (drift_answering course execute hanswers).2 rounds procedure world

/-- `extract` raises an exception. -/
def extractRaises (request : TaskExecutionRequest) : Execution :=
  if request.taskKey = .lit "extract" then .raised "ValueError" "no such file"
  else .returned ⟨.none, none, [], []⟩

/-- The run of the orders, as far as the program that runs them is concerned. -/
def performOrders (timeoutPolicy : TimeoutPolicy)
    (execute : TaskExecutionRequest → Execution) : Except PyError WorkflowResult × World :=
  (ordersRuntime.run (.plan (ordersPlan timeoutPolicy)) none).perform
    (answering ⟨.lit "run-1"⟩ execute) emptyWorld

theorem runs_orders (timeoutPolicy : TimeoutPolicy)
    (execute : TaskExecutionRequest → Execution) :
    (ordersRuntime.run (.plan (ordersPlan timeoutPolicy)) none).Runs
      (ordersCourse (ordersPlan timeoutPolicy)).surroundings emptyWorld
      (performOrders timeoutPolicy execute).1 (performOrders timeoutPolicy execute).2 :=
  runs_answering (ordersCourse (ordersPlan timeoutPolicy)) execute (fun _ _ => trivial) _ _

end Orders

section Terminal

variable {course : Course} {start after : World}

/-- When a run returns, it succeeded with all its tasks, failed with one of them, or was
left open at one of them. -/
theorem Course.run_terminalStructure {workflow : Submission}
    {correlation : Option CorrelationContext} {result : WorkflowResult}
    (hbegins : course.Begins (.run workflow correlation) start)
    (hruns : (course.runtime.run workflow correlation).Runs course.surroundings start
      (.ok result) after) :
    ∃ run, after.store.workflowRuns.find? course.runId = some run ∧
      TerminalStructure course.plan run (after.store.tasksOf course.runId) := by
  have hclass : course.classification = .empty := hbegins.classification
  have hends := hbegins.ends hruns
  have hconcluded : course.Concluded result (after.record course.runId) := hends
  have hrun : after.store.workflowRuns.find? course.runId =
      (after.record course.runId).run := rfl
  have htasks : after.store.tasksOf course.runId = (after.record course.runId).tasks := rfl
  rw [hrun, htasks]
  generalize after.record course.runId = last at hconcluded
  unfold TerminalStructure
  cases hconcluded with
  | @succeeded current tasks outputs calls hstatus hwalked hreports =>
      refine ⟨current, rfl, hwalked.keys, ?_⟩
      rw [hstatus]
      exact hwalked.status_of_fresh hclass
  | @failed current before after entry done swept task outputs earlier calls evidence hplan
      hcomputed hwalked hfailed hswept hstatus hfailure hreports =>
      have hthis := failedWith_of_failed hclass hwalked hfailed hswept hfailure
      have hkeys : (done ++ task :: swept).map (fun task => task.taskRun.taskKey) =
          course.plan.tasks.map TaskPlanEntry.key := by
        rw [hplan, List.map_append, List.map_append, List.map_cons, List.map_cons,
          hwalked.keys, hfailed.key, keys_of_swept hswept]
      refine ⟨current, rfl, hkeys, ?_⟩
      rcases terminalStatus_eq hfailed.category with ⟨hrunStatus, htaskStatus⟩ |
        ⟨hrunStatus, htaskStatus⟩
      · rw [hstatus, hrunStatus]
        rw [htaskStatus] at hthis
        exact hthis
      · rw [hstatus, hrunStatus]
        rw [htaskStatus] at hthis
        exact hthis
  | @unknown current before after entry done todo task outputs earlier calls hstage hstatus
      hkey htask hlaunched hunraised hreports =>
      refine ⟨current, rfl, hstage.keys hkey, ?_⟩
      rw [hstatus]
      have hpending : ∀ other ∈ todo, other.taskRun.status = .pending :=
        pending_of_fresh hclass hstage.waiting
      refine ⟨done, task, todo, rfl, filter_status htask ?_ ?_, hpending⟩
      · intro other hother
        rcases hstage.walked.status_of_fresh hclass other hother with heq | ⟨heq, -⟩ <;>
          simp [heq]
      · intro other hother
        simp [hpending other hother]

theorem run_terminalStructure_orders :
    ∃ run, (performOrders .none extractRaises).2.store.workflowRuns.find? ⟨.lit "run-1"⟩ =
        some run ∧
      Course.TerminalStructure (ordersPlan .none) run
        ((performOrders .none extractRaises).2.store.tasksOf ⟨.lit "run-1"⟩) := by
  have hreturns : (performOrders .none extractRaises).1.isOk = true := by decide +kernel
  have hruns := runs_orders .none extractRaises
  cases hresult : (performOrders .none extractRaises).1 with
  | error error =>
      rw [hresult] at hreturns
      cases hreturns
  | ok result =>
      rw [hresult] at hruns
      exact Course.run_terminalStructure (begins_orders rfl) hruns

end Terminal

end PyWorkflowKit.Runtime
