import PyWorkflowKit.Runtime.Outcomes

/-!
# Attempts and calls

How often the tasks of a run are attempted and how often executors are called, at
every moment of the run.
-/

namespace PyWorkflowKit.Runtime

open PyWorkflowKit.Core PyWorkflowKit.Domain PyWorkflowKit.States
open PyWorkflowKit.Persistence PyWorkflowKit.Executors PyWorkflowKit.Planning
open PyWorkflowKit.Policies Program

namespace Course

/-- The attempts of a run and the calls of executors at one moment: all attempts that
reached `RUNNING` were called once, but for one that is about to be. -/
structure Paced (course : Course) (record : RunRecord) : Prop where
  numbered : ∀ task ∈ record.tasks, task.attempts.map TaskAttempt.attemptNumber =
    numbersFromOne task.attempts.length
  disciplined : ∀ task ∈ record.tasks, ∃ entry ∈ course.plan.tasks,
    task.taskRun.taskKey = entry.key ∧ Disciplined entry.retryPolicy task.attempts
  once : (calledIds record.executions).Nodup
  called : ∀ attemptId ∈ calledIds record.executions, ∃ attempt ∈ attemptsIn record.tasks,
    attempt.attemptId = attemptId ∧ attempt.status ≠ .pending ∧ attempt.status ≠ .starting
  uncalled : ∃ waiting : List TaskAttempt, waiting.length ≤ 1 ∧
    ∀ attempt ∈ attemptsIn record.tasks, attempt ∉ waiting →
      attempt.attemptId ∈ calledIds record.executions

variable {course : Course} {command : RunCommand} {start current later : World}

section Kept

theorem Lawful.paced {record : RunRecord} (hlawful : course.Lawful record)
    (hsound : record.Sound course.runId) : course.Paced record := by
  obtain ⟨waiting, ⟨launched, hattempts, hcalls, hstarted⟩, hlength, -⟩ := hlawful.launched
  have hdistinct : ((attemptsIn record.tasks).map TaskAttempt.attemptId).Nodup := by
    unfold attemptsIn
    rw [List.map_flatMap]
    exact hsound.distinctAttempts
  refine ⟨hsound.numbered, fun task htask => (hlawful.planned task htask).planned, ?_, ?_,
    waiting, hlength, ?_⟩
  · rw [hattempts, List.map_append, hcalls] at hdistinct
    exact (List.nodup_append.mp hdistinct).1
  · intro attemptId hid
    rw [← hcalls] at hid
    obtain ⟨attempt, hattempt, rfl⟩ := List.mem_map.mp hid
    refine ⟨attempt, ?_, rfl, hstarted attempt hattempt⟩
    rw [hattempts]
    exact List.mem_append_left _ hattempt
  · intro attempt hattempt hwaiting
    rw [hattempts] at hattempt
    rw [← hcalls]
    exact List.mem_map_of_mem ((List.mem_append.mp hattempt).resolve_right hwaiting)

/-- The call of an executor keeps the law of the run. -/
theorem Lawful.call {record : RunRecord} (hlawful : course.Lawful record)
    {request : TaskExecutionRequest} (hadmits : course.Admits record request)
    (answer : Execution) :
    course.Lawful
      { record with executions := record.executions ++ [(request, answer)] } := by
  obtain ⟨attempt, hlaunched, hrunning, hid⟩ := hadmits.attempt
  exact ⟨hlawful.planned, [], hlaunched.call hrunning hid, Nat.zero_le _, by simp⟩

/-- What holds between two moments of a run. -/
structure Onward (course : Course) (before after : World) : Prop where
  consistent : before.store.Consistent → after.store.Consistent
  lawful : course.Lawful (before.record course.runId) →
    course.Lawful (after.record course.runId)
  continues : Continues (before.record course.runId) (after.record course.runId)
  archives : ∀ other, course.settled other →
    after.store.archive other = before.store.archive other

theorem Onward.trans {first second third : World} (hfirst : course.Onward first second)
    (hsecond : course.Onward second third) : course.Onward first third where
  consistent hconsistent := hsecond.consistent (hfirst.consistent hconsistent)
  lawful hlawful := hsecond.lawful (hfirst.lawful hlawful)
  continues := hfirst.continues.trans hsecond.continues
  archives other hsettled :=
    (hsecond.archives other hsettled).trans (hfirst.archives other hsettled)

/-- Others, and executors that answer, leave the run as it has to be. -/
theorem onward_of_elsewhere {moment : Option Service} {before after : World}
    (hdrift : course.Elsewhere moment before after)
    (hcall : ∀ request, moment = some (.execute request) →
      course.Admits (before.record course.runId) request) : course.Onward before after := by
  have hrecord : after.record course.runId = before.record course.runId ∨
      ∃ request answer, moment = some (Service.execute request) ∧
        after.record course.runId = { before.record course.runId with
          executions := (before.record course.runId).executions ++ [(request, answer)] } := by
    have hdrifts := hdrift.record
    unfold Drifts at hdrifts
    split at hdrifts
    · next request =>
      split at hdrifts
      · obtain ⟨answer, hanswer⟩ := hdrifts
        exact Or.inr ⟨request, answer, rfl, hanswer⟩
      · exact Or.inl hdrifts
    · exact Or.inl hdrifts
  refine ⟨hdrift.consistent, ?_, ?_, hdrift.archives⟩
  · intro hlawful
    rcases hrecord with hsame | ⟨request, answer, hmoment, hcalled⟩
    · rw [hsame]
      exact hlawful
    · rw [hcalled]
      exact hlawful.call (hcall request hmoment) answer
  · rcases hrecord with hsame | ⟨request, answer, -, hcalled⟩
    · exact continues_of_attempts (by rw [hsame])
    · exact continues_of_attempts (by rw [hcalled])

theorem Begins.onward (hbegins : course.Begins command start)
    {program rest : Procedure WorkflowResult} {before after : World}
    (hprogram : (command.procedure course.runtime).Reaches course.surroundings start program
      before) (hrest : program.Reaches course.surroundings before rest after) :
    course.Onward before after := by
  refine (hbegins.meets.of_reaches hprogram).kept
    (fun _ => ⟨id, id, continues_of_attempts rfl, fun _ _ => rfl⟩)
    (fun _ _ _ => Onward.trans) ?_ ?_ ?_ hrest
  · intro before after hdrift
    exact onward_of_elsewhere hdrift (by simp)
  · intro before after service henters hdrift
    apply onward_of_elsewhere hdrift
    rintro request hrequest
    cases hrequest
    exact henters
  · rintro before after ⟨hconsistent, hsame | ⟨hlawful, hcontinues⟩, harchives⟩
    · refine ⟨fun _ => hconsistent, fun hbefore => ?_, continues_of_attempts ?_, harchives⟩
      · exact hsame ▸ hbefore
      · exact congrArg (fun record : RunRecord => attemptsIn record.tasks) hsame
    · exact ⟨fun _ => hconsistent, fun _ => hlawful, hcontinues, harchives⟩

/-- The record of the run is sound at every moment. -/
theorem Begins.sound (hbegins : course.Begins command start)
    {rest : Procedure WorkflowResult}
    (hreaches : (command.procedure course.runtime).Reaches course.surroundings start rest
      current) : (current.record course.runId).Sound course.runId :=
  World.record_sound ((hbegins.onward .start hreaches).consistent hbegins.consistent)
    course.runId

/-- The run is lawful at every moment. -/
theorem Begins.lawful (hbegins : course.Begins command start)
    {rest : Procedure WorkflowResult}
    (hreaches : (command.procedure course.runtime).Reaches course.surroundings start rest
      current) : course.Lawful (current.record course.runId) := by
  apply (hbegins.onward .start hreaches).lawful
  rw [hbegins.fresh]
  exact ⟨by simp, [], launched_nil, Nat.zero_le _, by simp⟩

end Kept

section Called

/-- When a run ends as it should, executors were called for all attempts. -/
theorem Concluded.allCalled {result : WorkflowResult} {last : RunRecord}
    (hconcluded : course.Concluded result last) : AllCalled last := by
  cases hconcluded with
  | succeeded hstatus hwalked hreports => exact hwalked.launched.allCalled (by simp)
  | @failed current before after entry done swept task outputs earlier calls evidence hplan
      hcomputed hwalked hfailed hswept hstatus hfailure hreports =>
      have hnone : attemptsIn swept = [] := by
        apply attemptsIn_eq_nil
        intro other hother
        obtain ⟨_, -, hthis⟩ := exists_of_forall₂_right hswept hother
        exact hthis.attempts
      have hlaunched : Launched (attemptsIn (done ++ task :: swept)) [] (earlier ++ calls) := by
        rw [attemptsIn_append, attemptsIn_cons, hnone]
        simpa using hwalked.launched.append hfailed.behind.launched
      exact hlaunched.allCalled (by simp)
  | @unknown current before after entry done todo task outputs earlier calls hstage hstatus
      hkey htask hlaunched hunraised hreports =>
      have hnone : attemptsIn todo = [] := by
        apply attemptsIn_eq_nil
        intro other hother
        obtain ⟨_, -, hthis⟩ := exists_of_forall₂_right hstage.waiting hother
        exact hthis.attempts
      have hall : Launched (attemptsIn (done ++ task :: todo)) [] (earlier ++ calls) := by
        rw [attemptsIn_append, attemptsIn_cons, hnone, List.append_nil]
        exact hstage.walked.launched.append hlaunched
      exact hall.allCalled (by simp)

theorem Begins.allCalled (hbegins : course.Begins command start) (hprompt : course.Prompt)
    {result : Except PyError WorkflowResult}
    (hreaches : (command.procedure course.runtime).Reaches course.surroundings start
      (.done result) current) : AllCalled (current.record course.runId) := by
  have hends := hbegins.ends hreaches.runs
  cases result with
  | ok value =>
      have hconcluded : course.Concluded value (current.record course.runId) := hends
      exact hconcluded.allCalled
  | error error =>
      have hhalted : course.Halted error (current.record course.runId) := hends
      exact hhalted.called hprompt

end Called

end Course

section Orders

/-- Tasks without timeouts have no deadlines. -/
theorem prompt_orders {course : Course} (hplan : course.plan = ordersPlan .none) :
    course.Prompt := by
  intro entry hentry timeout htimeout
  have hcases : entry.timeoutPolicy.executionTimeout = none := by
    simp only [hplan, ordersPlan, List.mem_cons, List.not_mem_nil, or_false] at hentry
    rcases hentry with rfl | rfl <;> rfl
  rw [hcases] at htimeout
  cases htimeout

/-- A timeout of more seconds than a `timedelta` holds. -/
def hugeTimeout : TimeoutPolicy := ⟨some (.int (10 ^ 15)), by
  intro timeout htimeout
  cases htimeout
  decide +kernel⟩

/-- The request that an executor is about to be called with. -/
def requested {α : Type} : Procedure α → Option TaskExecutionRequest
  | .call (.execute request) _ => some request
  | _ => none

theorem eq_call_of_requested {α : Type} {procedure : Procedure α}
    {request : TaskExecutionRequest} (hrequested : requested procedure = some request) :
    ∃ next, procedure = .call (.execute request) next := by
  unfold requested at hrequested
  split at hrequested
  · next next => exact ⟨next, by rw [Option.some.inj hrequested]⟩
  · cases hrequested

/-- The executors of both tasks return nothing. -/
def bothReturn (_ : TaskExecutionRequest) : Execution := .returned ⟨.none, none, [], []⟩

/-- The run of the orders when the executor of `load` is about to be called. -/
def loading : Procedure WorkflowResult × World :=
  (ordersRuntime.run (.definition ordersWorkflow) none).advance
    (answering ⟨.lit "run-1"⟩ bothReturn) 53 emptyWorld

end Orders

end PyWorkflowKit.Runtime
