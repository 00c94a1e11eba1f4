import PyWorkflowKit.Runtime.Discipline

/-!
# What a run makes of failures

When a run returns at all, and what the exception of an executor comes to.
-/

namespace PyWorkflowKit.Runtime

open PyWorkflowKit.Core PyWorkflowKit.Domain PyWorkflowKit.States
open PyWorkflowKit.Persistence PyWorkflowKit.Executors PyWorkflowKit.Planning
open PyWorkflowKit.Policies Program

namespace Course

variable {course : Course} {workflow : Submission} {correlation : Option CorrelationContext}
  {start after : World} {result : Except PyError WorkflowResult}

section Returns

theorem Concluded.status {value : WorkflowResult} {last : RunRecord}
    (hconcluded : course.Concluded value last) :
    ∃ run, last.run = some run ∧
      (run.status.isTerminal = true ∨ run.status = .unknownOutcome) := by
  cases hconcluded with
  | @succeeded current _ _ _ hstatus => exact ⟨current, rfl, Or.inl (by rw [hstatus]; rfl)⟩
  | @failed current _ _ _ _ _ _ _ _ _ _ _ _ _ hfailed _ hstatus =>
      refine ⟨current, rfl, Or.inl ?_⟩
      rcases workflowTerminalStatus_eq hfailed.category with heq | heq <;>
        rw [hstatus, heq] <;> rfl
  | @unknown current _ _ _ _ _ _ _ _ _ _ hstatus => exact ⟨current, rfl, Or.inr hstatus⟩

end Returns

section Raised

/-- An exception ended its attempt, its task and the run. -/
structure Contained (request : TaskExecutionRequest) (typeName message : String)
    (last : RunRecord) (run : WorkflowRun) (done swept : List TaskRecord)
    (failed : TaskRecord) (evidence : FailureEvidence) : Prop where
  run : last.run = some run ∧ run.status = .failed ∧ run.failure = some evidence
  tasks : last.tasks = done ++ failed :: swept
  reported : Reported request typeName message evidence ∧ evidence.uncertainty = .known ∧
    evidence.retryability = .nonRetryable ∧ evidence.category = .internal
  ended : failed.taskRun.status = .failed ∧ failed.taskRun.failure = some evidence
  attempt : ∃ prior attempt, failed.attempts = prior ++ [attempt] ∧
    attempt.attemptId = request.context.attemptId ∧ attempt.status = .failed ∧
    attempt.failure = some evidence
  swept : ∀ task ∈ swept, task.taskRun.status = .skipped ∧ task.attempts = []
  final : last.executions.getLast? = some (request, .raised typeName message)

/-- A run that ends as it should contains every exception. -/
theorem Concluded.contained {value : WorkflowResult} {last : RunRecord}
    (hclass : course.classification = .empty) (hconcluded : course.Concluded value last)
    {request : TaskExecutionRequest} {typeName message : String}
    (hcall : (request, .raised typeName message) ∈ last.executions) :
    ∃ run done swept failed evidence,
      Contained request typeName message last run done swept failed evidence := by
  cases hconcluded with
  | succeeded _ hwalked => exact absurd rfl (hwalked.unraised _ hcall typeName message)
  | @unknown _ _ _ _ _ _ _ _ _ _ hstage _ _ _ _ hunraised =>
      exact absurd rfl ((hstage.walked.unraised.append hunraised) _ hcall typeName message)
  | @failed current before after entry done swept task outputs earlier calls evidence hplan
      hcomputed hwalked hfailed hswept hstatus hfailure hreports =>
      obtain ⟨prior, attempt, others, call, hattempts, rfl, hid, hattemptStatus,
        hattemptFailure, hunraised, hreported⟩ := hfailed.ended
      have hlast : call = (request, .raised typeName message) := by
        rw [← List.append_assoc] at hcall
        rcases List.mem_append.mp hcall with hearlier | hthis
        · exact absurd rfl ((hwalked.unraised.append hunraised) _ hearlier typeName message)
        · exact (List.mem_singleton.mp hthis).symm
      subst hlast
      have hthis := hreported typeName message rfl
      obtain ⟨hinternal, hfinal, hknown⟩ := hthis.kind
      have hterminal : taskTerminalStatus evidence = .failed ∧
          workflowTerminalStatus evidence = .failed ∧
          attemptTerminalStatus evidence = .failed := by
        simp [taskTerminalStatus, workflowTerminalStatus, attemptTerminalStatus, hinternal]
      refine ⟨current, done, swept, task, evidence,
        ⟨rfl, hstatus.trans hterminal.2.1, hfailure⟩, rfl, ⟨hthis, hknown, hfinal, hinternal⟩,
        ⟨hfailed.status.trans hterminal.1, hfailed.failure⟩,
        ⟨prior, attempt, hattempts, hid.symm, hattemptStatus.trans hterminal.2.2,
          hattemptFailure⟩, fun other hother => ?_, by simp⟩
      obtain ⟨_, -, hsweeps⟩ := exists_of_forall₂_right hswept hother
      exact ⟨(hsweeps.status hclass).1, hsweeps.attempts⟩

/-- A run whose executor raises an exception contains it exactly when its type and message
can be told in evidence. -/
theorem raised_contained_iff (hbegins : course.Begins (.run workflow correlation) start)
    (hfirm : course.Firm)
    (hruns : (course.runtime.run workflow correlation).Runs course.surroundings start result
      after) {request : TaskExecutionRequest} {typeName message : String}
    (hcall : (request, .raised typeName message) ∈
      (after.record course.runId).executions) :
    ((∃ value, result = .ok value) ∧ ∃ run done swept failed evidence,
      Contained request typeName message (after.record course.runId) run done swept failed
        evidence) ↔ Legible typeName message := by
  have hends := hbegins.ends_run hruns
  constructor
  · rintro ⟨-, run, done, swept, failed, evidence, hcontained⟩
    exact hcontained.reported.1.legible
  · intro hlegible
    cases result with
    | error error =>
        have hbad : course.Bad error (after.record course.runId) := hends
        exact absurd hlegible (hbad.cause.quiet hfirm _ hcall typeName message rfl)
    | ok value =>
        have hconcluded : course.Concluded value (after.record course.runId) := hends
        exact ⟨⟨value, rfl⟩, hconcluded.contained hbegins.classification hcall⟩

end Raised

end Course

section Orders

/-- The orders, with services that do what they should. -/
def calmCourse (execute : TaskExecutionRequest → Execution) : Course where
  runId := ⟨.lit "run-1"⟩
  settled := fun _ => False
  answers := fun record service answer =>
    match service, answer with
    | .now, reading => reading ≠ none
    | .newTaskRunId, taskRunId => ∀ task ∈ record.tasks, task.taskRun.taskRunId ≠ taskRunId
    | .newTaskAttemptId, attemptId => ∀ task ∈ record.tasks, ∀ attempt ∈ task.attempts,
        attempt.attemptId ≠ attemptId
    | .execute request, answer => answer = execute request
    | .uniform _, seconds => seconds = .finite 0
    | _, _ => True
  taskIds := fun _ => True
  attemptIds := fun _ => True
  runtime := ordersRuntime
  plan := ordersPlan .none
  classification := .empty
  archives := emptyWorld.store.archive
  unsettled := id

theorem begins_calm (execute : TaskExecutionRequest → Execution) :
    (calmCourse execute).Begins (.run (.plan (ordersPlan .none)) none) emptyWorld where
  compiles := rfl
  original := by simp [RunCommand.original]
  classification := rfl
  archives _ _ := rfl
  consistent := MemoryState.consistent_empty
  reserved := by
    constructor <;> intro _ _ owner howner <;> cases howner
  fresh := rfl

theorem answers_calm (execute : TaskExecutionRequest → Execution) (world : World)
    (service : Service) :
    (calmCourse execute).answers
      ((answering ⟨.lit "run-1"⟩ execute world service).1.record ⟨.lit "run-1"⟩) service
      (answering ⟨.lit "run-1"⟩ execute world service).2 := by
  cases service with
  | newTaskRunId =>
      intro task htask heq
      have hrow := Table.mem_of_find? (MemoryState.mem_tasksOf.mp htask).1
      apply another_not_mem
        (world.store.taskRuns.rows.map fun taskRun => taskRun.taskRunId.value)
      have hid : another (world.store.taskRuns.rows.map fun taskRun => taskRun.taskRunId.value) =
          task.taskRun.taskRunId.value := congrArg TaskRunId.value heq.symm
      rw [hid]
      exact List.mem_map_of_mem hrow
  | newTaskAttemptId =>
      intro task htask attempt hattempt heq
      rw [(MemoryState.mem_tasksOf.mp htask).2.2.1] at hattempt
      have hrow : attempt ∈ world.store.taskAttempts.rows := (List.mem_filter.mp hattempt).1
      apply another_not_mem
        (world.store.taskAttempts.rows.map fun attempt => attempt.attemptId.value)
      have hid : another (world.store.taskAttempts.rows.map fun attempt =>
          attempt.attemptId.value) = attempt.attemptId.value :=
        congrArg TaskAttemptId.value heq.symm
      rw [hid]
      exact List.mem_map_of_mem hrow
  | _ => simp [calmCourse, answering]

theorem first_orders (timeoutPolicy : TimeoutPolicy) :
    DependenciesFirst [] (ordersPlan timeoutPolicy).tasks := by
  refine ⟨?_, ?_, trivial⟩
  · intro dependency hdependency
    cases hdependency
  · intro dependency hdependency
    exact hdependency

theorem firm_calm (execute : TaskExecutionRequest → Execution) :
    (calmCourse execute).Firm where
  known :=
    have hfirst : (calmCourse execute).First := first_orders .none
    hfirst.known
  orderly := ⟨fun _ hnone => hnone rfl, fun _ _ hnew => ⟨trivial, hnew⟩,
    fun _ _ hnew => ⟨trivial, hnew⟩⟩
  budgets := by
    intro entry hentry budget hbudget
    simp only [calmCourse, ordersPlan, List.mem_cons, List.not_mem_nil, or_false] at hentry
    rcases hentry with rfl | rfl <;> cases hbudget

theorem smooth_calm {execute : TaskExecutionRequest → Execution}
    (hanswers : ∀ request, (∃ result, execute request = .returned result ∧
        ∀ failure ∈ result.failure, failure.category = .cancelled → Uncertain failure) ∨
      ∃ typeName message, execute request = .raised typeName message ∧
        Legible typeName message) : (calmCourse execute).Smooth where
  toFirm := firm_calm execute
  accepted := by
    have haccepted : ordersRuntime.preflight (ordersPlan .none) = .ok () := by decide +kernel
    exact haccepted
  first := first_orders .none
  prompt := prompt_orders rfl
  answered := by
    rintro record request answer hanswer
    have heq : answer = execute request := hanswer
    rw [heq]
    exact hanswers request
  delays := by
    intro entry hentry attemptNumber hfirst hbelow
    have hone : entry.retryPolicy.maxAttempts = 1 := by
      simp only [calmCourse, ordersPlan, List.mem_cons, List.not_mem_nil, or_false] at hentry
      rcases hentry with rfl | rfl <;> rfl
    omega
  jitter := by
    intro record bound seconds hbound hanswer
    exact ⟨0, hanswer, le_refl 0, hbound⟩

theorem runs_calm (execute : TaskExecutionRequest → Execution) :
    (ordersRuntime.run (.plan (ordersPlan .none)) none).Runs
      (calmCourse execute).surroundings emptyWorld (performOrders .none execute).1
      (performOrders .none execute).2 :=
  runs_answering (calmCourse execute) execute (answers_calm execute) _ _

/-- `extract` reports that it was cancelled. -/
def extractCancelled (request : TaskExecutionRequest) : Execution :=
  if request.taskKey = .lit "extract" then
    .returned ⟨.none, some { raisedEvidence request (.lit "CANCELLED") (.lit "stopped") .first with
      category := .cancelled }, [], []⟩
  else .returned ⟨.none, none, [], []⟩

/-- The call raised this exception. -/
def raises (typeName message : String) (call : TaskExecutionRequest × Execution) : Bool :=
  match call.2 with
  | .raised name text => name = typeName && text = message
  | .returned _ => false
  | .foreign => false

theorem eq_raised_of_raises {typeName message : String}
    {call : TaskExecutionRequest × Execution} (hraises : raises typeName message call = true) :
    call.2 = .raised typeName message := by
  unfold raises at hraises
  split at hraises
  · next name text hcall =>
    rw [Bool.and_eq_true, decide_eq_true_eq, decide_eq_true_eq] at hraises
    rw [hcall, hraises.1, hraises.2]
  · cases hraises
  · cases hraises

theorem raised_contained_calm :
    ∃ request, (request, Execution.raised "ValueError" "no such file") ∈
        ((performOrders .none extractRaises).2.record ⟨.lit "run-1"⟩).executions ∧
      (((∃ value, (performOrders .none extractRaises).1 = .ok value) ∧
        ∃ run done swept failed evidence,
          Course.Contained request "ValueError" "no such file"
            ((performOrders .none extractRaises).2.record ⟨.lit "run-1"⟩) run done swept failed
            evidence) ↔ Legible "ValueError" "no such file") := by
  have hany : ((performOrders .none extractRaises).2.record ⟨.lit "run-1"⟩).executions.any
      (raises "ValueError" "no such file") = true := by decide +kernel
  obtain ⟨⟨request, answer⟩, hcall, hraises⟩ := List.any_eq_true.mp hany
  obtain rfl : answer = .raised "ValueError" "no such file" := eq_raised_of_raises hraises
  exact ⟨request, hcall, Course.raised_contained_iff (begins_calm extractRaises)
    (firm_calm extractRaises) (runs_calm extractRaises) hcall⟩

/-- `extract` raises an exception whose message is a blank. -/
def extractRaisesBlank (request : TaskExecutionRequest) : Execution :=
  if request.taskKey = .lit "extract" then .raised "RuntimeError" " "
  else .returned ⟨.none, none, [], []⟩

/-- The blank message is no evidence: the run raises, and the attempt stays `RUNNING`. -/
theorem raised_uncontained_orders :
    ∃ request error after, (ordersRuntime.run (.plan (ordersPlan .none)) none).Runs
        (calmCourse extractRaisesBlank).surroundings emptyWorld (.error error) after ∧
      (request, Execution.raised "RuntimeError" " ") ∈
        (after.record ⟨.lit "run-1"⟩).executions ∧
      ∃ attempt ∈ attemptsIn (after.record ⟨.lit "run-1"⟩).tasks,
        attempt.attemptId = request.context.attemptId ∧ attempt.status = .running := by
  have hfails : (performOrders .none extractRaisesBlank).1.isOk = false := by decide +kernel
  have hany : ((performOrders .none extractRaisesBlank).2.record
      ⟨.lit "run-1"⟩).executions.any (fun call => raises "RuntimeError" " " call &&
        (attemptsIn ((performOrders .none extractRaisesBlank).2.record
          ⟨.lit "run-1"⟩).tasks).any fun attempt =>
            attempt.attemptId = call.1.context.attemptId && attempt.status = .running) =
      true := by decide +kernel
  obtain ⟨⟨request, answer⟩, hcall, hboth⟩ := List.any_eq_true.mp hany
  rw [Bool.and_eq_true, List.any_eq_true] at hboth
  obtain ⟨hraises, attempt, hattempt, hrunning⟩ := hboth
  rw [Bool.and_eq_true, decide_eq_true_eq, decide_eq_true_eq] at hrunning
  obtain rfl : answer = .raised "RuntimeError" " " := eq_raised_of_raises hraises
  have hruns := runs_calm extractRaisesBlank
  cases hresult : (performOrders .none extractRaisesBlank).1 with
  | error error =>
      rw [hresult] at hruns
      exact ⟨request, error, _, hruns, hcall, attempt, hattempt, hrunning⟩
  | ok value =>
      rw [hresult] at hfails
      cases hfails

end Orders

end PyWorkflowKit.Runtime
