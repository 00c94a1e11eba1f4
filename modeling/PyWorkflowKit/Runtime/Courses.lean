import PyWorkflowKit.Runtime.Steps

/-!
# The course of a run

What a run of a plan comes to when nobody cancels it, told from the first task of
the plan to the last: which tasks are behind, with which attempts, calls and
outputs, and what that says of the record of the run at every moment.
-/

namespace PyWorkflowKit.Runtime

open PyWorkflowKit.Core PyWorkflowKit.Domain PyWorkflowKit.States
open PyWorkflowKit.Persistence PyWorkflowKit.Executors PyWorkflowKit.Planning
open PyWorkflowKit.Policies

/-- The calls of executors with their answers, in order. -/
abbrev Calls := List (TaskExecutionRequest × Execution)

/-- What stays fixed while the tasks of a plan are executed for one run. -/
structure Course extends Setting where
  runtime : WorkflowRuntime
  plan : ExecutionPlan
  classification : TaskResumeClassification
  archives : WorkflowRunId → MemoryState.Archive
  unsettled : ¬ settled runId

/-- The status of the task with this key. -/
def statusIn (tasks : List TaskRecord) (taskKey : Text) : Option TaskRunStatus :=
  (tasks.find? fun task => task.taskRun.taskKey = taskKey).map fun task =>
    task.taskRun.status

/-- The attempts of the tasks, in the order of the tasks. -/
def attemptsIn (tasks : List TaskRecord) : List TaskAttempt :=
  tasks.flatMap TaskRecord.attempts

/-- The attempts that executors were called for. -/
def calledIds (calls : Calls) : List TaskAttemptId :=
  calls.map fun call => call.1.context.attemptId

/-- What a task is handed over of the outputs. -/
def handedOver (entry : TaskPlanEntry) (outputs : Outputs) : List (Text × PyValue) :=
  entry.dependencies.filterMap fun key => outputs.find? key

/-- The output of a call that succeeded. -/
def outputOf : Execution → Option PyValue
  | .returned result =>
      match result.failure with
      | none => some result.output
      | some _ => none
  | .raised _ _ => none
  | .foreign => none

/-- An exception whose type and message can be told in evidence. -/
def Legible (typeName message : String) : Prop :=
  isBlank typeName = false ∧ (message = "" ∨ isBlank message = false)

/-- The evidence of an exception that was raised for this request. -/
def Reported (request : TaskExecutionRequest) (typeName message : String)
    (evidence : FailureEvidence) : Prop :=
  ∃ code summary occurredAt, code.value = typeName ∧
    summary.value = (if message = "" then typeName else message) ∧
    evidence = raisedEvidence request code summary occurredAt

/-- None of the calls raised an exception. -/
def Unraised (calls : Calls) : Prop :=
  ∀ call ∈ calls, ∀ typeName message, call.2 ≠ .raised typeName message

/-- None of the calls raised an exception that can be told. -/
def Quiet (calls : Calls) : Prop :=
  ∀ call ∈ calls, ∀ typeName message, call.2 = .raised typeName message →
    ¬ Legible typeName message

/-- The retry policy of the task lets another attempt follow this one. -/
structure Retried (policy : RetryPolicy) (attempt : TaskAttempt) : Prop where
  status : attempt.status = .failed ∨ attempt.status = .timedOut
  evidence : ∃ failure, attempt.failure = some failure ∧ failure.uncertainty = .known ∧
    failure.retryability = .retryable ∧
    (policy.retryableFailureCategories = [] ∨
      failure.category ∈ policy.retryableFailureCategories)

/-- The attempts of a task keep to its retry policy. -/
structure Disciplined (policy : RetryPolicy) (attempts : List TaskAttempt) : Prop where
  bounded : attempts.length ≤ policy.maxAttempts
  retried : ∀ attempt ∈ attempts.dropLast, Retried policy attempt

namespace Course

variable (course : Course)

/-- A task that is copied from an earlier run. -/
structure Reused (task : TaskRecord) : Prop where
  status : task.taskRun.status = .reused
  checkpoint : ∃ cached, course.classification.reusedCheckpoints.find?
      task.taskRun.taskKey = some (task.taskRun.taskKey, cached) ∧
    ∃ copied, task.checkpoint = some copied ∧ copied.output = cached.output ∧
      copied.digest = cached.digest

/-- A task before its turn. -/
structure Waiting (entry : TaskPlanEntry) (task : TaskRecord) : Prop where
  key : task.taskRun.taskKey = entry.key
  attempts : task.attempts = []
  reused : entry.key ∈ course.classification.reusedKeys → course.Reused task
  pending : entry.key ∉ course.classification.reusedKeys →
    task.taskRun.status = .pending ∧ task.checkpoint = none

/-- An executor was called for this attempt of a task. -/
structure Called (entry : TaskPlanEntry) (outputs : Outputs) (taskRunId : TaskRunId)
    (attempt : TaskAttempt) (call : TaskExecutionRequest × Execution) : Prop where
  attemptId : call.1.context.attemptId = attempt.attemptId
  taskRunId : call.1.context.taskRunId = taskRunId
  taskKey : call.1.taskKey = entry.key
  outputs : call.1.context.dependencyOutputs = handedOver entry outputs
  answered : ∃ record, course.answers record (.execute call.1) call.2

/-- The attempts of a task that others follow, and their calls. -/
structure Tried (entry : TaskPlanEntry) (outputs : Outputs) (taskRunId : TaskRunId)
    (prior : List TaskAttempt) (calls : Calls) : Prop where
  called : List.Forall₂ (course.Called entry outputs taskRunId) prior calls
  failed : ∀ call ∈ calls, outputOf call.2 = none
  unraised : Unraised calls
  retried : ∀ attempt ∈ prior, Retried entry.retryPolicy attempt
  bounded : prior.length < entry.retryPolicy.maxAttempts

/-- The statuses that the trigger rule of a task is asked about. -/
def Upstream (tasks : List TaskRecord) (entry : TaskPlanEntry)
    (upstream : List TaskRunStatus) : Prop :=
  entry.dependencies.map (statusIn tasks) = upstream.map some

/-- The plan has every task after its dependencies, as the planner leaves it. -/
def First : Prop := DependenciesFirst [] course.plan.tasks

/-- What the trigger rule of a task says of how its dependencies ended. -/
def Ruled (done : List TaskRecord) (entry : TaskPlanEntry) (accepts : Bool) : Prop :=
  course.First → ∃ upstream, Upstream done entry upstream ∧
    allowedBy entry.triggerRule upstream = accepts

/-- How the first tasks of the plan ended: the entries, their records, the outputs and
the calls until then. -/
inductive Walked : List TaskPlanEntry → List TaskRecord → Outputs → Calls → Prop
  | start : Walked [] [] course.classification.initialOutputs []
  | reused {before : List TaskPlanEntry} {done : List TaskRecord} {outputs : Outputs}
      {calls : Calls} {entry : TaskPlanEntry} {task : TaskRecord}
      (hwalked : Walked before done outputs calls)
      (hkey : entry.key ∈ course.classification.reusedKeys)
      (htask : course.Waiting entry task) :
      Walked (before ++ [entry]) (done ++ [task]) outputs calls
  | skipped {before : List TaskPlanEntry} {done : List TaskRecord} {outputs : Outputs}
      {calls : Calls} {entry : TaskPlanEntry} {task : TaskRecord}
      (hwalked : Walked before done outputs calls)
      (hkey : entry.key ∉ course.classification.reusedKeys)
      (hrule : course.Ruled done entry false)
      (htaskKey : task.taskRun.taskKey = entry.key)
      (hstatus : task.taskRun.status = .skipped)
      (hreason : task.taskRun.skipReason = some .triggerRuleUnsatisfied)
      (hattempts : task.attempts = []) (hcheckpoint : task.checkpoint = none) :
      Walked (before ++ [entry]) (done ++ [task]) outputs calls
  | succeeded {before : List TaskPlanEntry} {done : List TaskRecord} {outputs : Outputs}
      {earlier calls : Calls} {entry : TaskPlanEntry} {task : TaskRecord}
      {prior : List TaskAttempt} {attempt : TaskAttempt}
      {call : TaskExecutionRequest × Execution} {output : PyValue}
      (hwalked : Walked before done outputs earlier)
      (hkey : entry.key ∉ course.classification.reusedKeys)
      (hrule : course.Ruled done entry true)
      (htaskKey : task.taskRun.taskKey = entry.key)
      (hstatus : task.taskRun.status = .succeeded)
      (htried : course.Tried entry outputs task.taskRun.taskRunId prior calls)
      (hattempts : task.attempts = prior ++ [attempt])
      (hattempt : attempt.status = .succeeded)
      (hcalled : course.Called entry outputs task.taskRun.taskRunId attempt call)
      (houtput : outputOf call.2 = some output)
      (hcheckpoint : ∀ checkpoint ∈ task.checkpoint, ∃ path,
        normalizeJsonValue path output = .ok checkpoint.output) :
      Walked (before ++ [entry]) (done ++ [task]) (outputs.set (entry.key, output))
        (earlier ++ (calls ++ [call]))

/-- One task and its attempts are as the plan allows. -/
structure Planned (started : Bool) (task : TaskRecord) : Prop where
  planned : ∃ entry ∈ course.plan.tasks, task.taskRun.taskKey = entry.key ∧
    Disciplined entry.retryPolicy task.attempts
  unused : task.taskRun.taskKey ∈ course.classification.reusedKeys → task.attempts = []
  reused : task.taskRun.taskKey ∈ course.classification.reusedKeys → started = true →
    course.Reused task

end Course

/-- Executors were called for all attempts but the waiting ones, once each. -/
structure Launched (attempts waiting : List TaskAttempt) (calls : Calls) : Prop where
  split : ∃ launched, attempts = launched ++ waiting ∧
    launched.map TaskAttempt.attemptId = calledIds calls ∧
    ∀ attempt ∈ launched, attempt.status ≠ .pending ∧ attempt.status ≠ .starting

/-- An attempt that no executor was called for yet. -/
def Unlaunched (attempt : TaskAttempt) : Prop :=
  attempt.status = .pending ∨ attempt.status = .starting ∨ attempt.status = .running

/-- The run has an attempt with an open outcome. -/
def Undecided (record : RunRecord) : Prop :=
  ∃ attempt ∈ attemptsIn record.tasks,
    attempt.status = .unknownOutcome ∨ attempt.status = .requiresReconciliation

/-- Nothing is attempted any more once an outcome is open. -/
def Continues (before after : RunRecord) : Prop :=
  Undecided before → Undecided after ∧
    (attemptsIn after.tasks).map TaskAttempt.attemptId =
      (attemptsIn before.tasks).map TaskAttempt.attemptId

/-- An executor was called for every attempt that has reached `RUNNING`. -/
def AllCalled (record : RunRecord) : Prop :=
  ∀ attempt ∈ attemptsIn record.tasks,
    attempt.status ≠ .pending → attempt.status ≠ .starting →
      attempt.attemptId ∈ calledIds record.executions

/-- The error does not say that a task was reached before its dependencies ended. -/
def InOrder (error : PyError) : Prop := ∀ key, error ≠ notReadyError key

namespace Course

variable (course : Course)

/-- Tasks that no executor will be called for any more. -/
structure Behind (tasks : List TaskRecord) (calls : Calls) : Prop where
  planned : ∀ task ∈ tasks, course.Planned true task
  launched : Launched (attemptsIn tasks) [] calls
  decided : ∀ attempt ∈ attemptsIn tasks,
    attempt.status ≠ .unknownOutcome ∧ attempt.status ≠ .requiresReconciliation

/-- Tasks that were never attempted. -/
structure Ahead (tasks : List TaskRecord) : Prop where
  planned : ∀ task ∈ tasks, course.Planned true task
  unattempted : ∀ task ∈ tasks, task.attempts = []

/-- What holds of the record of the run at every moment. -/
structure Lawful (record : RunRecord) : Prop where
  planned : ∀ task ∈ record.tasks,
    course.Planned (record.run.any fun run => run.status ≠ .pending) task
  launched : ∃ waiting, Launched (attemptsIn record.tasks) waiting record.executions ∧
    waiting.length ≤ 1 ∧ ∀ attempt ∈ waiting, Unlaunched attempt

/-- What a write of the run keeps. -/
def Keeps (before after : RunRecord) : Prop := course.Lawful after ∧ Continues before after

/-- The deadline of a task that has a timeout is a time that can be represented,
whenever the clock is read. -/
def Prompt : Prop :=
  ∀ entry ∈ course.plan.tasks, ∀ timeout ∈ entry.timeoutPolicy.executionTimeout,
    ∀ record reading, course.answers record .now reading →
      ∃ at_ delta, reading = some at_ ∧ timedeltaSeconds timeout = .ok delta ∧
        at_.add? delta ≠ none

/-- The plan, the services and the budgets are what they should be. -/
structure Firm : Prop where
  known : ∀ entry ∈ course.plan.tasks, ∀ taskKey ∈ entry.dependencies,
    taskKey ∈ course.plan.tasks.map TaskPlanEntry.key
  orderly : course.Orderly
  budgets : ∀ entry ∈ course.plan.tasks, ∀ budget ∈ entry.retryPolicy.totalBudgetSeconds,
    ∀ total, budget.asFloat = .finite total → total ≤ PyFloat.largest

/-- Whatever can go wrong around the run does not. -/
structure Smooth : Prop extends course.Firm where
  accepted : course.runtime.preflight course.plan = .ok ()
  first : course.First
  prompt : course.Prompt
  answered : ∀ record request answer, course.answers record (.execute request) answer →
    (∃ result, answer = .returned result ∧ ∀ failure ∈ result.failure,
      failure.category = .cancelled → Uncertain failure) ∨
    ∃ typeName message, answer = .raised typeName message ∧ Legible typeName message
  delays : ∀ entry ∈ course.plan.tasks, ∀ attemptNumber : Int, 1 ≤ attemptNumber →
    attemptNumber < entry.retryPolicy.maxAttempts →
      ∃ bound, backoffDelay entry.retryPolicy attemptNumber = .ok (.finite bound) ∧ 0 ≤ bound
  jitter : ∀ record bound seconds, 0 ≤ bound →
    course.answers record (.uniform (.finite bound)) seconds →
      ∃ value, seconds = .finite value ∧ 0 ≤ value ∧ value ≤ bound

/-- Why the run may fail: never because of an exception that can be told. -/
inductive Cause (record : RunRecord) : Prop
  | infirm (hinfirm : ¬ course.Firm)
  | rough (hrough : ¬ course.Smooth) (hquiet : Quiet record.executions)

/-- How the run may fail. -/
structure Bad (error : PyError) (last : RunRecord) : Prop where
  order : course.First → InOrder error
  called : course.Prompt → AllCalled last
  cause : course.Cause last

/-- The output that was produced or preloaded for a task of the run. -/
def OutputIn (record : RunRecord) (key : Text) (value : PyValue) : Prop :=
  ∃ task ∈ record.tasks, task.taskRun.taskKey = key ∧
    ((task.taskRun.status = .succeeded ∧ ∃ call ∈ record.executions,
        call.1.context.taskRunId = task.taskRun.taskRunId ∧ outputOf call.2 = some value) ∨
      (task.taskRun.status = .reused ∧ ∃ cached,
        course.classification.reusedCheckpoints.find? key = some (key, cached) ∧
          value = cached.output.object))

/-- A task may be executed: its dependencies have ended as its trigger rule demands, and
it is handed over their outputs. -/
structure Ready (record : RunRecord) (request : TaskExecutionRequest)
    (entry : TaskPlanEntry) : Prop where
  planned : entry ∈ course.plan.tasks
  key : request.taskKey = entry.key
  computed : entry.key ∉ course.classification.reusedKeys
  dependencies : ∃ upstream, Upstream record.tasks entry upstream ∧
    (∀ status ∈ upstream, status.isTerminal = true) ∧
    allowedBy entry.triggerRule upstream = true
  outputs : ∀ key value, (key, value) ∈ request.context.dependencyOutputs ↔
    key ∈ entry.dependencies ∧ course.OutputIn record key value
  complete : ∀ key ∈ entry.dependencies, statusIn record.tasks key = some .succeeded ∨
    statusIn record.tasks key = some .reused →
      ∃ value, (key, value) ∈ request.context.dependencyOutputs
  exact : (request.context.dependencyOutputs.map Prod.fst).Sublist entry.dependencies

/-- The moments at which an executor may be called. -/
structure Admits (record : RunRecord) (request : TaskExecutionRequest) : Prop where
  ready : course.First → ∃ entry, course.Ready record request entry
  attempt : ∃ attempt, Launched (attemptsIn record.tasks) [attempt] record.executions ∧
    attempt.status = .running ∧ attempt.attemptId = request.context.attemptId

def scene : Scene where
  toSetting := course.toSetting
  archives := course.archives
  admits := course.Admits
  keeps := course.Keeps
  unsettled := course.unsettled

end Course

section Errors

theorem inOrder_of_harmless {error : PyError} (hharmless : Harmless error) :
    InOrder error := by
  intro key heq
  exact hharmless (by rw [heq]; rfl)

/-- The error about a task that is reached too early ends in the word `order`. -/
theorem inOrder_of_getLast? {reason : String} (hlast : reason.toList.getLast? ≠ some 'r') :
    InOrder (.runtimeInvariant reason) := by
  intro key heq
  have hreason := PyError.runtimeInvariant.inj heq
  apply hlast
  rw [hreason, String.toList_append, List.getLast?_append]
  rfl

end Errors

section Raised

variable {calls others : Calls}

theorem unraised_nil : Unraised [] := by simp [Unraised]

theorem Unraised.append (hcalls : Unraised calls) (hothers : Unraised others) :
    Unraised (calls ++ others) := by
  intro call hcall
  exact (List.mem_append.mp hcall).elim (hcalls call) (hothers call)

theorem Unraised.quiet (hcalls : Unraised calls) : Quiet calls :=
  fun call hcall _ _ hraised => absurd hraised (hcalls call hcall _ _)

/-- The evidence of an exception lets nothing be tried again. -/
theorem Reported.kind {request : TaskExecutionRequest} {typeName message : String}
    {evidence : FailureEvidence} (hreported : Reported request typeName message evidence) :
    evidence.category = .internal ∧ evidence.retryability = .nonRetryable ∧
      evidence.uncertainty = .known := by
  obtain ⟨code, summary, occurredAt, -, -, rfl⟩ := hreported
  exact ⟨rfl, rfl, rfl⟩

/-- Only an exception that can be told is reported. -/
theorem Reported.legible {request : TaskExecutionRequest} {typeName message : String}
    {evidence : FailureEvidence} (hreported : Reported request typeName message evidence) :
    Legible typeName message := by
  obtain ⟨code, summary, occurredAt, hcode, hsummary, -⟩ := hreported
  refine ⟨hcode ▸ code.notBlank, ?_⟩
  split at hsummary
  · next hempty => exact Or.inl hempty
  · exact Or.inr (hsummary ▸ summary.notBlank)

end Raised

section Attempts

variable {attempts more waiting : List TaskAttempt} {calls others : Calls}

@[simp]
theorem attemptsIn_nil : attemptsIn [] = [] := rfl

@[simp]
theorem attemptsIn_cons (task : TaskRecord) (tasks : List TaskRecord) :
    attemptsIn (task :: tasks) = task.attempts ++ attemptsIn tasks := rfl

@[simp]
theorem attemptsIn_append (tasks others : List TaskRecord) :
    attemptsIn (tasks ++ others) = attemptsIn tasks ++ attemptsIn others :=
  List.flatMap_append

theorem attemptsIn_eq_nil {tasks : List TaskRecord}
    (hnone : ∀ task ∈ tasks, task.attempts = []) : attemptsIn tasks = [] :=
  List.flatMap_eq_nil_iff.mpr hnone

@[simp]
theorem calledIds_append (calls others : Calls) :
    calledIds (calls ++ others) = calledIds calls ++ calledIds others := List.map_append

theorem Retried.started {policy : RetryPolicy} {attempt : TaskAttempt}
    (hretried : Retried policy attempt) :
    attempt.status ≠ .pending ∧ attempt.status ≠ .starting := by
  rcases hretried.status with hstatus | hstatus <;> simp [hstatus]

theorem Retried.decided {policy : RetryPolicy} {attempt : TaskAttempt}
    (hretried : Retried policy attempt) :
    attempt.status ≠ .unknownOutcome ∧ attempt.status ≠ .requiresReconciliation := by
  rcases hretried.status with hstatus | hstatus <;> simp [hstatus]

theorem disciplined_nil (policy : RetryPolicy) : Disciplined policy [] :=
  ⟨Nat.zero_le _, by simp⟩

theorem launched_nil : Launched [] [] [] := ⟨[], rfl, rfl, by simp⟩

/-- Attempts with their calls, and further attempts with theirs. -/
theorem Launched.append (hfirst : Launched attempts [] calls)
    (hsecond : Launched more waiting others) :
    Launched (attempts ++ more) waiting (calls ++ others) := by
  obtain ⟨first, hattempts, hcalls, hstarted⟩ := hfirst.split
  obtain ⟨second, hmore, hothers, hstartedMore⟩ := hsecond.split
  refine ⟨first ++ second, ?_, ?_, ?_⟩
  · rw [hattempts, hmore, List.append_nil, List.append_assoc]
  · rw [List.map_append, calledIds_append, hcalls, hothers]
  · intro attempt hattempt
    rcases List.mem_append.mp hattempt with hmem | hmem
    · exact hstarted attempt hmem
    · exact hstartedMore attempt hmem

/-- An executor is called for the waiting attempt. -/
theorem Launched.call {attempt : TaskAttempt} (hlaunched : Launched attempts [attempt] calls)
    (hrunning : attempt.status = .running) {call : TaskExecutionRequest × Execution}
    (hcall : attempt.attemptId = call.1.context.attemptId) :
    Launched attempts [] (calls ++ [call]) := by
  obtain ⟨launched, hattempts, hcalls, hstarted⟩ := hlaunched.split
  refine ⟨launched ++ [attempt], ?_, ?_, ?_⟩
  · rw [hattempts, List.append_nil]
  · rw [List.map_append, calledIds_append, hcalls, List.map_singleton, hcall]
    rfl
  · intro other hother
    rcases List.mem_append.mp hother with hmem | hmem
    · exact hstarted other hmem
    · rw [List.mem_singleton.mp hmem, hrunning]
      simp

/-- Where no attempt waits in `RUNNING`, an executor was called for all that reached it. -/
theorem Launched.allCalled {record : RunRecord}
    (hlaunched : Launched (attemptsIn record.tasks) waiting record.executions)
    (hwaiting : ∀ attempt ∈ waiting, attempt.status = .pending ∨ attempt.status = .starting) :
    AllCalled record := by
  obtain ⟨launched, hattempts, hcalls, -⟩ := hlaunched.split
  intro attempt hattempt hpending hstarting
  rw [hattempts] at hattempt
  rcases List.mem_append.mp hattempt with hmem | hmem
  · rw [← hcalls]
    exact List.mem_map_of_mem hmem
  · rcases hwaiting attempt hmem with heq | heq
    · exact absurd heq hpending
    · exact absurd heq hstarting

theorem continues_of_attempts {before after : RunRecord}
    (hsame : attemptsIn after.tasks = attemptsIn before.tasks) : Continues before after := by
  intro hundecided
  unfold Undecided at hundecided ⊢
  rw [hsame]
  exact ⟨hundecided, rfl⟩

theorem continues_of_decided {before after : RunRecord} (hdecided : ¬ Undecided before) :
    Continues before after := fun hundecided => absurd hundecided hdecided

theorem Continues.trans {first second third : RunRecord} (hfirst : Continues first second)
    (hsecond : Continues second third) : Continues first third := by
  intro hundecided
  obtain ⟨hbetween, hids⟩ := hfirst hundecided
  obtain ⟨hlast, hmore⟩ := hsecond hbetween
  exact ⟨hlast, hmore.trans hids⟩

end Attempts

namespace Course

variable {course : Course}

section Planned

theorem Planned.mono {task : TaskRecord} {started : Bool} (hplanned : course.Planned true task) :
    course.Planned started task :=
  ⟨hplanned.planned, hplanned.unused, fun hkey _ => hplanned.reused hkey rfl⟩

theorem Waiting.planned {entry : TaskPlanEntry} {task : TaskRecord}
    (hwaiting : course.Waiting entry task) (hentry : entry ∈ course.plan.tasks) :
    course.Planned true task := by
  refine ⟨⟨entry, hentry, hwaiting.key, ?_⟩, fun _ => hwaiting.attempts, fun hkey _ => ?_⟩
  · rw [hwaiting.attempts]
    exact disciplined_nil _
  · rw [hwaiting.key] at hkey
    exact hwaiting.reused hkey

/-- A task that is not reused. -/
theorem planned_of_computed {entry : TaskPlanEntry} {task : TaskRecord}
    (hentry : entry ∈ course.plan.tasks)
    (hcomputed : entry.key ∉ course.classification.reusedKeys)
    (hkey : task.taskRun.taskKey = entry.key)
    (hdisciplined : Disciplined entry.retryPolicy task.attempts) :
    course.Planned true task := by
  refine ⟨⟨entry, hentry, hkey, hdisciplined⟩, fun hreused => ?_, fun hreused => ?_⟩
  · rw [hkey] at hreused
    exact absurd hreused hcomputed
  · rw [hkey] at hreused
    exact absurd hreused hcomputed

end Planned

section Tried

variable {entry : TaskPlanEntry} {outputs : Outputs} {taskRunId : TaskRunId}
  {prior : List TaskAttempt} {calls : Calls}

/-- The attempts that executors were called for are the attempts of the calls. -/
theorem calledIds_of_called
    (hcalled : List.Forall₂ (course.Called entry outputs taskRunId) prior calls) :
    prior.map TaskAttempt.attemptId = calledIds calls := by
  induction hcalled with
  | nil => rfl
  | cons hcall _ ih =>
      unfold calledIds at ih ⊢
      rw [List.map_cons, List.map_cons, ih, hcall.attemptId]

theorem Tried.launched (htried : course.Tried entry outputs taskRunId prior calls) :
    Launched prior [] calls :=
  ⟨prior, by simp, calledIds_of_called htried.called,
    fun attempt hattempt => (htried.retried attempt hattempt).started⟩

/-- A further attempt that no executor was called for. -/
theorem Tried.launched_next (htried : course.Tried entry outputs taskRunId prior calls)
    (attempt : TaskAttempt) : Launched (prior ++ [attempt]) [attempt] calls :=
  ⟨prior, rfl, calledIds_of_called htried.called,
    fun other hother => (htried.retried other hother).started⟩

/-- A further attempt with its call. -/
theorem Tried.launched_called (htried : course.Tried entry outputs taskRunId prior calls)
    {attempt : TaskAttempt} {call : TaskExecutionRequest × Execution}
    (hcalled : course.Called entry outputs taskRunId attempt call)
    (hstarted : attempt.status ≠ .pending ∧ attempt.status ≠ .starting) :
    Launched (prior ++ [attempt]) [] (calls ++ [call]) := by
  refine htried.launched.append ⟨[attempt], rfl, ?_, ?_⟩
  · rw [List.map_singleton, ← hcalled.attemptId]
    rfl
  · intro other hother
    rw [List.mem_singleton.mp hother]
    exact hstarted

theorem Tried.disciplined (htried : course.Tried entry outputs taskRunId prior calls) :
    Disciplined entry.retryPolicy prior :=
  ⟨htried.bounded.le, fun attempt hattempt =>
    htried.retried attempt (List.dropLast_subset _ hattempt)⟩

theorem Tried.disciplined_next (htried : course.Tried entry outputs taskRunId prior calls)
    (attempt : TaskAttempt) : Disciplined entry.retryPolicy (prior ++ [attempt]) := by
  constructor
  · rw [List.length_append, List.length_singleton]
    exact htried.bounded
  · rw [List.dropLast_concat]
    exact htried.retried

end Tried

section Walked

variable {before : List TaskPlanEntry} {done : List TaskRecord} {outputs : Outputs}
  {calls : Calls}

theorem Walked.keys (hwalked : course.Walked before done outputs calls) :
    done.map (fun task => task.taskRun.taskKey) = before.map TaskPlanEntry.key := by
  induction hwalked with
  | start => rfl
  | reused _ _ htask ih => simp [ih, htask.key]
  | skipped _ _ _ htaskKey _ _ _ _ ih => simp [ih, htaskKey]
  | succeeded _ _ _ htaskKey _ _ _ _ _ _ _ ih => simp [ih, htaskKey]

/-- The key of the next task is a new one. -/
theorem Walked.key_fresh (hwalked : course.Walked before done outputs calls)
    {entry : TaskPlanEntry} (hkeys : ((before ++ [entry]).map TaskPlanEntry.key).Nodup) :
    entry.key ∉ before.map TaskPlanEntry.key ∧
      ∀ task ∈ done, task.taskRun.taskKey ≠ entry.key := by
  rw [List.map_append, List.map_singleton, List.nodup_append] at hkeys
  have hfresh : entry.key ∉ before.map TaskPlanEntry.key :=
    fun hmem => hkeys.2.2 _ hmem _ (by simp) rfl
  refine ⟨hfresh, fun task htask heq => hfresh ?_⟩
  rw [← hwalked.keys, ← heq]
  exact List.mem_map_of_mem htask

/-- How the tasks behind ended. -/
theorem Walked.status (hwalked : course.Walked before done outputs calls) :
    ∀ task ∈ done, task.taskRun.status = .succeeded ∨
      (task.taskRun.status = .skipped ∧
        task.taskRun.skipReason = some .triggerRuleUnsatisfied) ∨
      (task.taskRun.status = .reused ∧
        task.taskRun.taskKey ∈ course.classification.reusedKeys) := by
  induction hwalked with
  | start => simp
  | reused _ hkey htask ih =>
      intro task hmem
      rcases List.mem_append.mp hmem with hold | hnew
      · exact ih task hold
      · rw [List.mem_singleton.mp hnew, htask.key]
        exact Or.inr (Or.inr ⟨(htask.reused hkey).status, hkey⟩)
  | skipped _ _ _ _ hstatus hreason _ _ ih =>
      intro task hmem
      rcases List.mem_append.mp hmem with hold | hnew
      · exact ih task hold
      · rw [List.mem_singleton.mp hnew]
        exact Or.inr (Or.inl ⟨hstatus, hreason⟩)
  | succeeded _ _ _ _ hstatus _ _ _ _ _ _ ih =>
      intro task hmem
      rcases List.mem_append.mp hmem with hold | hnew
      · exact ih task hold
      · rw [List.mem_singleton.mp hnew]
        exact Or.inl hstatus

theorem Walked.unraised (hwalked : course.Walked before done outputs calls) :
    Unraised calls := by
  induction hwalked with
  | start => exact unraised_nil
  | reused _ _ _ ih => exact ih
  | skipped _ _ _ _ _ _ _ _ ih => exact ih
  | @succeeded _ _ _ _ _ _ _ _ _ call _ _ _ _ _ _ htried _ _ _ houtput _ ih =>
      refine ih.append (htried.unraised.append ?_)
      intro made hmade typeName message hraised
      rw [List.mem_singleton.mp hmade] at hraised
      rw [hraised] at houtput
      cases houtput

theorem Walked.terminal (hwalked : course.Walked before done outputs calls) :
    ∀ task ∈ done, task.taskRun.status.isTerminal = true := by
  intro task htask
  rcases hwalked.status task htask with hstatus | ⟨hstatus, -⟩ | ⟨hstatus, -⟩ <;>
    rw [hstatus] <;> rfl

theorem Walked.launched (hwalked : course.Walked before done outputs calls) :
    Launched (attemptsIn done) [] calls := by
  induction hwalked with
  | start => exact launched_nil
  | reused _ _ htask ih => simpa [htask.attempts] using ih
  | skipped _ _ _ _ _ _ hattempts _ ih => simpa [hattempts] using ih
  | succeeded _ _ _ _ _ htried hattempts hattempt hcalled _ _ ih =>
      rw [attemptsIn_append, attemptsIn_cons, attemptsIn_nil, List.append_nil, hattempts]
      exact ih.append (htried.launched_called hcalled (by simp [hattempt]))

theorem Walked.decided (hwalked : course.Walked before done outputs calls) :
    ∀ attempt ∈ attemptsIn done,
      attempt.status ≠ .unknownOutcome ∧ attempt.status ≠ .requiresReconciliation := by
  induction hwalked with
  | start => simp
  | reused _ _ htask ih => simpa [htask.attempts] using ih
  | skipped _ _ _ _ _ _ hattempts _ ih => simpa [hattempts] using ih
  | succeeded _ _ _ _ _ htried hattempts hattempt _ _ _ ih =>
      intro other hother
      rw [attemptsIn_append, attemptsIn_cons, attemptsIn_nil, List.append_nil,
        hattempts] at hother
      rcases List.mem_append.mp hother with hold | hnew
      · exact ih other hold
      rcases List.mem_append.mp hnew with hprior | hlast
      · exact (htried.retried other hprior).decided
      · rw [List.mem_singleton.mp hlast, hattempt]
        simp

theorem Walked.planned (hwalked : course.Walked before done outputs calls)
    (hbefore : ∀ entry ∈ before, entry ∈ course.plan.tasks) :
    ∀ task ∈ done, course.Planned true task := by
  induction hwalked with
  | start => simp
  | reused _ _ htask ih =>
      intro task hmem
      rcases List.mem_append.mp hmem with hold | hnew
      · exact ih (fun entry hentry => hbefore entry (List.mem_append_left _ hentry)) task hold
      · rw [List.mem_singleton.mp hnew]
        exact htask.planned (hbefore _ (by simp))
  | skipped _ hkey _ htaskKey _ _ hattempts _ ih =>
      intro task hmem
      rcases List.mem_append.mp hmem with hold | hnew
      · exact ih (fun entry hentry => hbefore entry (List.mem_append_left _ hentry)) task hold
      · rw [List.mem_singleton.mp hnew]
        refine planned_of_computed (hbefore _ (by simp)) hkey htaskKey ?_
        rw [hattempts]
        exact disciplined_nil _
  | succeeded _ hkey _ htaskKey _ htried hattempts _ _ _ _ ih =>
      intro task hmem
      rcases List.mem_append.mp hmem with hold | hnew
      · exact ih (fun entry hentry => hbefore entry (List.mem_append_left _ hentry)) task hold
      · rw [List.mem_singleton.mp hnew]
        refine planned_of_computed (hbefore _ (by simp)) hkey htaskKey ?_
        rw [hattempts]
        exact htried.disciplined_next _

theorem Walked.behind (hwalked : course.Walked before done outputs calls)
    (hbefore : ∀ entry ∈ before, entry ∈ course.plan.tasks) : course.Behind done calls :=
  ⟨hwalked.planned hbefore, hwalked.launched, hwalked.decided⟩

/-- Calls were made for the tasks behind only. -/
theorem Walked.owner (hwalked : course.Walked before done outputs calls) :
    ∀ call ∈ calls, ∃ task ∈ done, call.1.context.taskRunId = task.taskRun.taskRunId := by
  induction hwalked with
  | start => simp
  | reused _ _ _ ih =>
      intro call hcall
      obtain ⟨task, htask, heq⟩ := ih call hcall
      exact ⟨task, List.mem_append_left _ htask, heq⟩
  | skipped _ _ _ _ _ _ _ _ ih =>
      intro call hcall
      obtain ⟨task, htask, heq⟩ := ih call hcall
      exact ⟨task, List.mem_append_left _ htask, heq⟩
  | @succeeded _ _ _ _ _ _ task _ _ _ _ _ _ _ _ _ htried _ _ hcalled _ _ ih =>
      intro call hcall
      rcases List.mem_append.mp hcall with hold | hnew
      · obtain ⟨owner, howner, heq⟩ := ih call hold
        exact ⟨owner, List.mem_append_left _ howner, heq⟩
      refine ⟨task, by simp, ?_⟩
      rcases List.mem_append.mp hnew with hprior | hlast
      · obtain ⟨attempt, -, hthis⟩ := exists_of_forall₂_right htried.called hprior
        exact hthis.taskRunId
      · rw [List.mem_singleton.mp hlast]
        exact hcalled.taskRunId

/-- The preloaded outputs stay. -/
theorem Walked.outputs_reused (hwalked : course.Walked before done outputs calls) {key : Text}
    (hkey : key ∈ course.classification.reusedKeys) :
    outputs.find? key = course.classification.initialOutputs.find? key := by
  induction hwalked with
  | start => rfl
  | reused _ _ _ ih => exact ih
  | skipped _ _ _ _ _ _ _ _ ih => exact ih
  | succeeded _ hcomputed _ _ _ _ _ _ _ _ _ ih =>
      rw [Table.find?_set_of_ne, ih]
      rintro rfl
      exact hcomputed hkey

/-- A task that is neither behind nor reused has no output. -/
theorem Walked.outputs_absent (hwalked : course.Walked before done outputs calls)
    (hclass : course.classification.Preloaded) {key : Text} (hbefore : key ∉ before.map TaskPlanEntry.key)
    (hkey : key ∉ course.classification.reusedKeys) : outputs.find? key = none := by
  induction hwalked with
  | start =>
      rw [hclass.outputs, not_not.mp (mt (hclass.checkpoint key).mpr hkey)]
      rfl
  | reused _ _ _ ih => exact ih fun hmem => hbefore (by simp [hmem])
  | skipped _ _ _ _ _ _ _ _ ih => exact ih fun hmem => hbefore (by simp [hmem])
  | succeeded _ _ _ _ _ _ _ _ _ _ _ ih =>
      rw [Table.find?_set_of_ne, ih fun hmem => hbefore (by simp [hmem])]
      rintro rfl
      exact hbefore (by simp)

/-- Every task that succeeded or was reused has an output. -/
theorem Walked.outputs_complete (hwalked : course.Walked before done outputs calls)
    (hclass : course.classification.Preloaded) : ∀ task ∈ done,
    task.taskRun.status = .succeeded ∨ task.taskRun.status = .reused →
      ∃ value, outputs.find? task.taskRun.taskKey = some (task.taskRun.taskKey, value) := by
  induction hwalked with
  | start => simp
  | reused hwalked hkey htask ih =>
      intro other hmem hstatus
      rcases List.mem_append.mp hmem with hold | hnew
      · exact ih other hold hstatus
      · rw [List.mem_singleton.mp hnew, htask.key, hwalked.outputs_reused hkey, hclass.outputs]
        obtain ⟨cached, hcached⟩ := Option.ne_none_iff_exists'.mp
          ((hclass.checkpoint _).mp hkey)
        have hsame := Table.key_of_find? hcached
        rw [hcached, ← hsame]
        exact ⟨_, rfl⟩
  | skipped _ _ _ _ hskipped _ _ _ ih =>
      intro other hmem hstatus
      rcases List.mem_append.mp hmem with hold | hnew
      · exact ih other hold hstatus
      · rw [List.mem_singleton.mp hnew, hskipped] at hstatus
        simp at hstatus
  | @succeeded _ _ outputs _ _ entry task _ _ _ output _ _ _ htaskKey _ _ _ _ _ _ _ ih =>
      intro other hmem hstatus
      by_cases hsame : entry.key = other.taskRun.taskKey
      · rw [← hsame]
        exact ⟨output, Table.find?_set_self _ _⟩
      · have hfind : (outputs.set (entry.key, output)).find? other.taskRun.taskKey =
            outputs.find? other.taskRun.taskKey := Table.find?_set_of_ne _ _ hsame
        rw [hfind]
        rcases List.mem_append.mp hmem with hold | hnew
        · exact ih other hold hstatus
        · rw [List.mem_singleton.mp hnew, htaskKey] at hsame
          exact absurd rfl hsame

/-- Other tasks and their calls do not change the output of a task. -/
theorem outputIn_append {run other : Option WorkflowRun} {rest : List TaskRecord}
    {more : Calls} {key : Text} {value : PyValue}
    (hrest : ∀ task ∈ rest, task.taskRun.taskKey ≠ key)
    (hmore : ∀ call ∈ more, ∀ task ∈ done,
      call.1.context.taskRunId ≠ task.taskRun.taskRunId) :
    course.OutputIn ⟨run, done ++ rest, calls ++ more⟩ key value ↔
      course.OutputIn ⟨other, done, calls⟩ key value := by
  constructor
  · rintro ⟨task, htask, hkey, houtput⟩
    rcases List.mem_append.mp htask with hdone | hother
    · refine ⟨task, hdone, hkey, houtput.imp_left ?_⟩
      rintro ⟨hstatus, call, hcall, hid, hvalue⟩
      rcases List.mem_append.mp hcall with hold | hnew
      · exact ⟨hstatus, call, hold, hid, hvalue⟩
      · exact absurd hid (hmore call hnew task hdone)
    · exact absurd hkey (hrest task hother)
  · rintro ⟨task, htask, hkey, houtput⟩
    refine ⟨task, List.mem_append_left _ htask, hkey, houtput.imp_left ?_⟩
    rintro ⟨hstatus, call, hcall, hid, hvalue⟩
    exact ⟨hstatus, call, List.mem_append_left _ hcall, hid, hvalue⟩

/-- The output of the last task. -/
theorem outputIn_last {run : Option WorkflowRun} {task : TaskRecord} {key : Text}
    {value : PyValue} (hdone : ∀ other ∈ done, other.taskRun.taskKey ≠ key)
    (hkey : task.taskRun.taskKey = key) :
    course.OutputIn ⟨run, done ++ [task], calls⟩ key value ↔
      (task.taskRun.status = .succeeded ∧ ∃ call ∈ calls,
          call.1.context.taskRunId = task.taskRun.taskRunId ∧ outputOf call.2 = some value) ∨
        (task.taskRun.status = .reused ∧ ∃ cached,
          course.classification.reusedCheckpoints.find? key = some (key, cached) ∧
            value = cached.output.object) := by
  constructor
  · rintro ⟨other, hother, hotherKey, houtput⟩
    rcases List.mem_append.mp hother with hold | hnew
    · exact absurd hotherKey (hdone other hold)
    · obtain rfl := List.mem_singleton.mp hnew
      exact houtput
  · intro houtput
    exact ⟨task, by simp, hkey, houtput⟩

/-- What is known of the tasks behind and of one more task. -/
theorem output_iff_snoc {run : Option WorkflowRun} {entry : TaskPlanEntry}
    {task : TaskRecord} {next : Outputs} (more : Calls)
    (hearlier : ∀ key ∈ before.map TaskPlanEntry.key, ∀ value,
      outputs.find? key = some (key, value) ↔
        course.OutputIn ⟨run, done, calls⟩ key value)
    (hfresh : entry.key ∉ before.map TaskPlanEntry.key)
    (htaskKey : task.taskRun.taskKey = entry.key)
    (hmore : ∀ call ∈ more, ∀ other ∈ done,
      call.1.context.taskRunId ≠ other.taskRun.taskRunId)
    (hsame : ∀ key, entry.key ≠ key → next.find? key = outputs.find? key)
    (hthis : ∀ value, next.find? entry.key = some (entry.key, value) ↔
      course.OutputIn ⟨run, done ++ [task], calls ++ more⟩ entry.key value) :
    ∀ key ∈ (before ++ [entry]).map TaskPlanEntry.key, ∀ value,
      next.find? key = some (key, value) ↔
        course.OutputIn ⟨run, done ++ [task], calls ++ more⟩ key value := by
  intro key hkey value
  rw [List.map_append, List.map_singleton] at hkey
  rcases List.mem_append.mp hkey with hold | hnew
  · have hne : entry.key ≠ key := by
      rintro rfl
      exact hfresh hold
    have hother : ∀ other ∈ [task], other.taskRun.taskKey ≠ key := by
      simpa [htaskKey] using hne
    rw [hsame key hne, hearlier key hold value]
    exact (outputIn_append hother hmore).symm
  · rw [List.mem_singleton.mp hnew]
    exact hthis value

/-- The outputs are those that the tasks behind produced and those of the reused tasks. -/
theorem Walked.output_iff (hwalked : course.Walked before done outputs calls)
    (hclass : course.classification.Preloaded) (run : Option WorkflowRun)
    (hkeys : (before.map TaskPlanEntry.key).Nodup)
    (hids : (done.map fun task => task.taskRun.taskRunId).Nodup) :
    ∀ key ∈ before.map TaskPlanEntry.key, ∀ value,
      outputs.find? key = some (key, value) ↔
        course.OutputIn ⟨run, done, calls⟩ key value := by
  induction hwalked with
  | start => simp
  | @reused before done outputs calls entry task hwalked hreused htask ih =>
      obtain ⟨hfresh, hdone⟩ := hwalked.key_fresh hkeys
      rw [List.map_append, List.map_singleton, List.nodup_append] at hkeys hids
      have hnext := output_iff_snoc [] (ih hkeys.1 hids.1) hfresh htask.key (by simp) (fun _ _ => rfl)
      rw [List.append_nil] at hnext
      refine hnext fun value => ?_
      have hstatus := (htask.reused hreused).status
      rw [outputIn_last hdone htask.key, hwalked.outputs_reused hreused, hclass.outputs]
      constructor
      · intro hfound
        obtain ⟨⟨key, cached⟩, hcached, heq⟩ := Option.map_eq_some_iff.mp hfound
        simp only [Prod.mk.injEq] at heq
        obtain ⟨rfl, rfl⟩ := heq
        exact Or.inr ⟨hstatus, cached, hcached, rfl⟩
      · rintro (⟨hother, -⟩ | ⟨-, cached, hcached, rfl⟩)
        · rw [hstatus] at hother
          cases hother
        · rw [hcached]
          rfl
  | @skipped before done outputs calls entry task hwalked hcomputed _ htaskKey hstatus _ _ _ ih =>
      obtain ⟨hfresh, hdone⟩ := hwalked.key_fresh hkeys
      rw [List.map_append, List.map_singleton, List.nodup_append] at hkeys hids
      have hnext := output_iff_snoc [] (ih hkeys.1 hids.1) hfresh htaskKey (by simp) (fun _ _ => rfl)
      rw [List.append_nil] at hnext
      refine hnext fun value => ?_
      rw [outputIn_last hdone htaskKey, hwalked.outputs_absent hclass hfresh hcomputed, hstatus]
      simp
  | @succeeded before done outputs earlier calls entry task prior attempt call output
      hwalked hcomputed _ htaskKey hstatus htried hattempts _ hcalled houtput _ ih =>
      obtain ⟨hfresh, hdone⟩ := hwalked.key_fresh hkeys
      rw [List.map_append, List.map_singleton, List.nodup_append] at hkeys hids
      have hown : ∀ made ∈ calls ++ [call],
          made.1.context.taskRunId = task.taskRun.taskRunId := by
        intro made hmade
        rcases List.mem_append.mp hmade with hprior | hlast
        · obtain ⟨_, -, hthis⟩ := exists_of_forall₂_right htried.called hprior
          exact hthis.taskRunId
        · rw [List.mem_singleton.mp hlast]
          exact hcalled.taskRunId
      have hother : ∀ other ∈ done, task.taskRun.taskRunId ≠ other.taskRun.taskRunId :=
        fun other hmem heq => hids.2.2 _ (List.mem_map_of_mem hmem) _ (by simp) heq.symm
      refine output_iff_snoc _ (ih hkeys.1 hids.1) hfresh htaskKey ?_
        (fun _ hne => Table.find?_set_of_ne _ _ hne) fun value => ?_
      · intro made hmade other hmem
        rw [hown made hmade]
        exact hother other hmem
      · have hset : (outputs.set (entry.key, output)).find? entry.key =
            some (entry.key, output) := Table.find?_set_self _ _
        rw [outputIn_last hdone htaskKey, hset, hstatus]
        simp only [Option.some.injEq, Prod.mk.injEq, true_and, reduceCtorEq, false_and,
          or_false]
        constructor
        · rintro rfl
          exact ⟨call, by simp, hcalled.taskRunId, houtput⟩
        · rintro ⟨made, hmade, hid, hvalue⟩
          rcases List.mem_append.mp hmade with hold | hnew
          · obtain ⟨owner, howner, heq⟩ := hwalked.owner made hold
            exact absurd (hid.symm.trans heq) (hother owner howner)
          rcases List.mem_append.mp hnew with hprior | hlast
          · rw [htried.failed made hprior] at hvalue
            cases hvalue
          · rw [List.mem_singleton.mp hlast, houtput] at hvalue
            exact Option.some.inj hvalue

end Walked

section Causes

theorem Cause.not_smooth {record : RunRecord} (hcause : course.Cause record) :
    ¬ course.Smooth := by
  cases hcause with
  | infirm hinfirm => exact fun hsmooth => hinfirm hsmooth.toFirm
  | rough hrough hquiet => exact hrough

/-- Nothing but an exception that cannot be told lets a sound run fail. -/
theorem Cause.quiet {record : RunRecord} (hcause : course.Cause record)
    (hfirm : course.Firm) : Quiet record.executions := by
  cases hcause with
  | infirm hinfirm => exact absurd hfirm hinfirm
  | rough hrough hquiet => exact hquiet

end Causes

section Moments

variable {run : Option WorkflowRun} {done todo : List TaskRecord} {task : TaskRecord}
  {earlier calls : Calls} {waiting : List TaskAttempt}

theorem Behind.append {tasks others : List TaskRecord} {calls more : Calls}
    (hfirst : course.Behind tasks calls) (hsecond : course.Behind others more) :
    course.Behind (tasks ++ others) (calls ++ more) := by
  refine ⟨fun task htask => ?_, ?_, fun attempt hattempt => ?_⟩
  · exact (List.mem_append.mp htask).elim (hfirst.planned task) (hsecond.planned task)
  · rw [attemptsIn_append]
    exact hfirst.launched.append hsecond.launched
  · rw [attemptsIn_append] at hattempt
    exact (List.mem_append.mp hattempt).elim (hfirst.decided attempt)
      (hsecond.decided attempt)

theorem Ahead.behind {tasks : List TaskRecord} (hahead : course.Ahead tasks) :
    course.Behind tasks [] := by
  have hnone := attemptsIn_eq_nil hahead.unattempted
  refine ⟨hahead.planned, ?_, ?_⟩
  · rw [hnone]
    exact launched_nil
  · rw [hnone]
    simp

/-- The attempts of a record whose later tasks were never attempted. -/
theorem launched_split (hdone : course.Behind done earlier) (htodo : course.Ahead todo)
    (hlaunched : Launched task.attempts waiting calls) :
    Launched (attemptsIn (done ++ task :: todo)) waiting (earlier ++ calls) := by
  rw [attemptsIn_append, attemptsIn_cons, attemptsIn_eq_nil htodo.unattempted,
    List.append_nil]
  exact hdone.launched.append hlaunched

/-- A moment at which one task is being worked on. -/
theorem lawful_split (hdone : course.Behind done earlier) (htodo : course.Ahead todo)
    (htask : course.Planned true task) (hlaunched : Launched task.attempts waiting calls)
    (hlength : waiting.length ≤ 1) (hwaiting : ∀ attempt ∈ waiting, Unlaunched attempt) :
    course.Lawful ⟨run, done ++ task :: todo, earlier ++ calls⟩ := by
  refine ⟨fun other hother => ?_, waiting, launched_split hdone htodo hlaunched, hlength,
    hwaiting⟩
  rcases List.mem_append.mp hother with hmem | hmem
  · exact (hdone.planned other hmem).mono
  rcases List.mem_cons.mp hmem with rfl | hmem
  · exact htask.mono
  · exact (htodo.planned other hmem).mono

/-- A moment at which no attempt is under way. -/
theorem lawful_behind {tasks : List TaskRecord} (hbehind : course.Behind tasks calls) :
    course.Lawful ⟨run, tasks, calls⟩ :=
  ⟨fun task htask => (hbehind.planned task htask).mono, [], hbehind.launched,
    Nat.zero_le _, by simp⟩

/-- No outcome is open while those of the task being worked on are not. -/
theorem decided_split (hdone : course.Behind done earlier) (htodo : course.Ahead todo)
    (htask : ∀ attempt ∈ task.attempts,
      attempt.status ≠ .unknownOutcome ∧ attempt.status ≠ .requiresReconciliation) :
    ¬ Undecided ⟨run, done ++ task :: todo, calls⟩ := by
  rintro ⟨attempt, hattempt, hstatus⟩
  rw [attemptsIn_append, attemptsIn_cons, attemptsIn_eq_nil htodo.unattempted,
    List.append_nil] at hattempt
  have hdecided : attempt.status ≠ .unknownOutcome ∧
      attempt.status ≠ .requiresReconciliation :=
    (List.mem_append.mp hattempt).elim (hdone.decided attempt) (htask attempt)
  exact hstatus.elim hdecided.1 hdecided.2

end Moments

end Course

end PyWorkflowKit.Runtime
