import PyWorkflowKit.Runtime.Evaluations

/-!
# The attempts of a task

What one round of the attempt loop does to the record of the run, and what the loop
comes to.
-/

namespace PyWorkflowKit.Runtime

open PyWorkflowKit.Core PyWorkflowKit.Domain PyWorkflowKit.States
open PyWorkflowKit.Persistence PyWorkflowKit.Executors PyWorkflowKit.Planning
open PyWorkflowKit.Policies Program Scene

section Errors

theorem inOrder_append {reason suffix : String} (hsuffix : suffix.toList ≠ [])
    (hlast : suffix.toList.getLast? ≠ some 'r') :
    InOrder (.runtimeInvariant (reason ++ suffix)) := by
  apply inOrder_of_getLast?
  rw [String.toList_append, List.getLast?_append_of_ne_nil _ hsuffix]
  exact hlast

theorem checkAttempts_inOrder {taskRunId : TaskRunId} {attempts : List TaskAttempt}
    {seenIds : List TaskAttemptId} {seenNumbers : List Int} {error : PyError}
    (herror : checkAttempts taskRunId attempts seenIds seenNumbers = .error error) :
    InOrder error := by
  induction attempts generalizing seenIds seenNumbers with
  | nil => cases herror
  | cons attempt rest ih =>
      unfold checkAttempts at herror
      split at herror
      · cases herror
        exact inOrder_of_getLast? (by decide)
      split at herror
      · cases herror
        exact inOrder_of_getLast? (by decide)
      split at herror
      · cases herror
        exact inOrder_of_getLast? (by decide)
      exact ih herror

theorem nextTaskAttempt_inOrder {taskRun : TaskRun} {existing : List TaskAttempt}
    {attemptId : TaskAttemptId} {createdAt : Instant} {error : PyError}
    (herror : nextTaskAttempt taskRun existing attemptId createdAt = .error error) :
    InOrder error := by
  unfold nextTaskAttempt at herror
  split at herror
  · cases herror
    apply inOrder_append <;> cases taskRun.status <;> decide
  split at herror
  · next hcheck =>
    cases herror
    exact checkAttempts_inOrder hcheck
  split at herror
  · cases herror
    exact inOrder_of_getLast? (by decide)
  simp only at herror
  split at herror
  · cases herror
    exact inOrder_of_getLast? (by decide)
  split at herror
  · next violation hviolation =>
    cases herror
    unfold previousViolation at hviolation
    split at hviolation
    · cases hviolation
    split at hviolation
    · cases hviolation
    next attempt _ _ =>
    cases hviolation
    apply inOrder_append <;> cases attempt.status <;> decide
  · cases herror

end Errors

namespace Course

/-- What the execution of a plan rests on. -/
structure Valid (course : Course) : Prop where
  classified : course.classification.Preloaded
  resolves : ∀ entry ∈ course.plan.tasks, ∃ executor,
    course.runtime.executors.resolve entry.executorRequirement.executorKey = .ok executor

/-- Tasks depend on tasks of the plan only. -/
theorem First.known {course : Course} (hfirst : course.First) :
    ∀ entry ∈ course.plan.tasks, ∀ taskKey ∈ entry.dependencies,
      taskKey ∈ course.plan.tasks.map TaskPlanEntry.key := by
  intro entry hentry taskKey hdependency
  obtain ⟨before, after, hplan⟩ := List.append_of_mem hentry
  unfold First at hfirst
  rw [hplan] at hfirst ⊢
  have hmem := hfirst.dependency taskKey hdependency
  rw [List.nil_append] at hmem
  rw [List.map_append]
  exact List.mem_append_left _ hmem

/-- The plan loop is at a task that is not reused. -/
structure Stage (course : Course) (before : List TaskPlanEntry) (entry : TaskPlanEntry)
    (after : List TaskPlanEntry) (done todo : List TaskRecord) (outputs : Outputs)
    (earlier : Calls) : Prop where
  plan : course.plan.tasks = before ++ entry :: after
  walked : course.Walked before done outputs earlier
  waiting : List.Forall₂ course.Waiting after todo
  computed : entry.key ∉ course.classification.reusedKeys

/-- The tasks before and after one that is not reused. -/
structure Around (course : Course) (entry : TaskPlanEntry) (done todo : List TaskRecord)
    (earlier : Calls) : Prop where
  behind : course.Behind done earlier
  ahead : course.Ahead todo
  mem : entry ∈ course.plan.tasks
  computed : entry.key ∉ course.classification.reusedKeys

variable {course : Course} {before after : List TaskPlanEntry} {entry : TaskPlanEntry}
  {done todo : List TaskRecord} {outputs : Outputs} {earlier calls : Calls}
  {run : WorkflowRun} {taskRun : TaskRun} {task next : TaskRecord}
  {prior waiting : List TaskAttempt} {attempt : TaskAttempt}

/-- A task that failed, and the attempts and calls that were made for it. -/
structure Failed (course : Course) (entry : TaskPlanEntry) (evidence : FailureEvidence)
    (task : TaskRecord) (calls : Calls) : Prop where
  key : task.taskRun.taskKey = entry.key
  status : task.taskRun.status = taskTerminalStatus evidence
  failure : task.taskRun.failure = some evidence
  category : evidence.category ≠ .cancelled
  behind : course.Behind [task] calls
  ended : ∃ prior attempt others call, task.attempts = prior ++ [attempt] ∧
    calls = others ++ [call] ∧ call.1.context.attemptId = attempt.attemptId ∧
    attempt.status = attemptTerminalStatus evidence ∧ attempt.failure = some evidence ∧
    Unraised others ∧ ∀ typeName message, call.2 = .raised typeName message →
      Reported call.1 typeName message evidence

/-- How the attempts of a task end. -/
inductive TaskEnds (course : Course) (before : List TaskPlanEntry) (entry : TaskPlanEntry)
    (done todo : List TaskRecord) (outputs : Outputs) (earlier : Calls) (run : WorkflowRun) :
    TaskEnd → RunRecord → Prop
  | succeeded {progress : PlanProgress} {task : TaskRecord} {calls : Calls}
      (hrun : progress.run = run)
      (hwalked : course.Walked (before ++ [entry]) (done ++ [task]) progress.outputs
        (earlier ++ calls)) :
      TaskEnds course before entry done todo outputs earlier run (.succeeded progress)
        ⟨some run, done ++ task :: todo, earlier ++ calls⟩
  | failed {progress : PlanProgress} {failure : FailureEvidence} {task : TaskRecord}
      {calls : Calls} (hrun : progress.run = run) (houtputs : progress.outputs = outputs)
      (hfailed : course.Failed entry failure task calls) :
      TaskEnds course before entry done todo outputs earlier run (.failed progress failure)
        ⟨some run, done ++ task :: todo, earlier ++ calls⟩
  | unknown {result : WorkflowResult} {current : WorkflowRun} {task : TaskRecord}
      {calls : Calls} (hrun : current.status = .unknownOutcome)
      (hkey : task.taskRun.taskKey = entry.key)
      (hstatus : task.taskRun.status = .unknownOutcome)
      (hlaunched : Launched task.attempts [] calls) (hunraised : Unraised calls)
      (hreports : Reports current (done ++ task :: todo) outputs result) :
      TaskEnds course before entry done todo outputs earlier run (.returned result)
        ⟨some current, done ++ task :: todo, earlier ++ calls⟩

/-- How one round of the attempt loop ends. -/
inductive RoundEnds (course : Course) (before : List TaskPlanEntry) (entry : TaskPlanEntry)
    (done todo : List TaskRecord) (outputs : Outputs) (earlier : Calls) (run : WorkflowRun)
    (rounds : Nat) : AttemptEnd → RunRecord → Prop
  | ended {taskEnd : TaskEnd} {last : RunRecord}
      (hends : course.TaskEnds before entry done todo outputs earlier run taskEnd last) :
      RoundEnds course before entry done todo outputs earlier run rounds (.ended taskEnd) last
  | retry {progress : PlanProgress} {task : TaskRecord} {calls : Calls}
      (hrun : progress.run = run) (houtputs : progress.outputs = outputs)
      (hkey : task.taskRun.taskKey = entry.key)
      (hstatus : task.taskRun.status = .running)
      (hstarted : task.taskRun.startedAt.isSome = true) (hnone : task.checkpoint = none)
      (htried : course.Tried entry outputs task.taskRun.taskRunId task.attempts calls)
      (hrounds : task.attempts.length + rounds = entry.retryPolicy.maxAttempts) :
      RoundEnds course before entry done todo outputs earlier run rounds
        (.retry progress task.taskRun) ⟨some run, done ++ task :: todo, earlier ++ calls⟩

section Stage

theorem keys_of_waiting {entries : List TaskPlanEntry} {tasks : List TaskRecord}
    (hwaiting : List.Forall₂ course.Waiting entries tasks) :
    tasks.map (fun task => task.taskRun.taskKey) = entries.map TaskPlanEntry.key := by
  induction hwaiting with
  | nil => rfl
  | cons hhead _ ih => rw [List.map_cons, List.map_cons, ih, hhead.key]

theorem Stage.keys (hstage : course.Stage before entry after done todo outputs earlier)
    (hkey : task.taskRun.taskKey = entry.key) :
    (done ++ task :: todo).map (fun task => task.taskRun.taskKey) =
      course.plan.tasks.map TaskPlanEntry.key := by
  rw [hstage.plan, List.map_append, List.map_append, List.map_cons, List.map_cons,
    hstage.walked.keys, keys_of_waiting hstage.waiting, hkey]

theorem ahead_of_waiting {entries : List TaskPlanEntry} {tasks : List TaskRecord}
    (hwaiting : List.Forall₂ course.Waiting entries tasks)
    (hentries : ∀ entry ∈ entries, entry ∈ course.plan.tasks) : course.Ahead tasks := by
  constructor
  · intro task htask
    obtain ⟨entry, hentry, hthis⟩ := exists_of_forall₂_right hwaiting htask
    exact hthis.planned (hentries entry hentry)
  · intro task htask
    obtain ⟨entry, -, hthis⟩ := exists_of_forall₂_right hwaiting htask
    exact hthis.attempts

theorem Stage.around (hstage : course.Stage before entry after done todo outputs earlier) :
    course.Around entry done todo earlier where
  behind := by
    apply hstage.walked.behind
    intro other hother
    rw [hstage.plan]
    exact List.mem_append_left _ hother
  ahead := by
    apply ahead_of_waiting hstage.waiting
    intro other hother
    rw [hstage.plan]
    exact List.mem_append_right _ (List.mem_cons_of_mem _ hother)
  mem := by
    rw [hstage.plan]
    simp
  computed := hstage.computed

/-- A write to the task that is being worked on. -/
theorem Around.keeps (haround : course.Around entry done todo earlier)
    {current changed : Option WorkflowRun} {executions : Calls}
    (hkey : next.taskRun.taskKey = entry.key)
    (hdisciplined : Disciplined entry.retryPolicy next.attempts)
    (hlaunched : Launched next.attempts waiting calls) (hlength : waiting.length ≤ 1)
    (hwaiting : ∀ attempt ∈ waiting, Unlaunched attempt)
    (hattempts : next.attempts = task.attempts ∨ ∀ attempt ∈ task.attempts,
      attempt.status ≠ .unknownOutcome ∧ attempt.status ≠ .requiresReconciliation) :
    course.Keeps ⟨current, done ++ task :: todo, executions⟩
      ⟨changed, done ++ next :: todo, earlier ++ calls⟩ := by
  refine ⟨lawful_split haround.behind haround.ahead
    (planned_of_computed haround.mem haround.computed hkey hdisciplined) hlaunched hlength
    hwaiting, ?_⟩
  rcases hattempts with hsame | hdecided
  · apply continues_of_attempts
    simp [hsame]
  · exact continues_of_decided (decided_split haround.behind haround.ahead hdecided)

/-- A failure at a moment where no attempt has reached `RUNNING` without its call. -/
theorem Around.bad (haround : course.Around entry done todo earlier)
    {current : Option WorkflowRun} {error : PyError}
    (hlaunched : Launched task.attempts waiting calls)
    (hwaiting : ∀ attempt ∈ waiting,
      attempt.status = .pending ∨ attempt.status = .starting)
    (horder : InOrder error)
    (hcause : course.Cause ⟨current, done ++ task :: todo, earlier ++ calls⟩) :
    course.Bad error ⟨current, done ++ task :: todo, earlier ++ calls⟩ where
  order _ := horder
  called _ := (launched_split haround.behind haround.ahead hlaunched).allCalled hwaiting
  cause := hcause

end Stage

section Changes

/-- The task takes a transition while no attempt is waiting. -/
theorem ensures_changeTask (haround : course.Around entry done todo earlier)
    (hkey : task.taskRun.taskKey = entry.key)
    (hdisciplined : Disciplined entry.retryPolicy task.attempts)
    (hlaunched : Launched task.attempts [] calls) {current : Option WorkflowRun}
    {target : TaskRunStatus} {skipReason : Option SkipReason}
    {failure : Option FailureEvidence} (hskip : skipReason.isSome = true ↔ target = .skipped)
    (hblock : target ≠ .blocked) (hallowed : target ∈ taskRunTransitions task.taskRun.status) :
    course.scene.Ensures (transitionTask task.taskRun target skipReason failure)
      ⟨current, done ++ task :: todo, earlier ++ calls⟩
      (Ends (fun changed last => ∃ next, next.taskRun = changed ∧
        next.attempts = task.attempts ∧ next.checkpoint = task.checkpoint ∧
        task.taskRun.Became changed target skipReason failure ∧
        last = ⟨current, done ++ next :: todo, earlier ++ calls⟩) course.Bad) := by
  refine ensures_transitionTask hskip hblock (fun at_ changed hchanged _ => ?_)
    fun error hharmless hcause => ?_
  · have hbecame := TaskRun.became_of_transition hchanged
    have hchangedKey : changed.taskKey = entry.key := hbecame.identity.2.2.1.symm.trans hkey
    exact ⟨haround.keeps hchangedKey hdisciplined hlaunched (Nat.zero_le _) (by simp)
      (Or.inl rfl), { task with taskRun := changed }, rfl, rfl, rfl, hbecame, rfl⟩
  · refine haround.bad hlaunched (by simp) (inOrder_of_harmless hharmless)
      (.infirm fun hfirm => ?_)
    rcases hcause with hnaive | hrejected
    · exact hnaive hfirm.orderly
    · exact hrejected hallowed

/-- The run takes a transition. -/
theorem ensures_changeRun {tasks : List TaskRecord} {executions : Calls}
    {target : WorkflowRunStatus} {failure : Option FailureEvidence}
    (hlawful : ∀ next : WorkflowRun, course.Lawful ⟨some next, tasks, executions⟩)
    (hcalled : AllCalled ⟨some run, tasks, executions⟩)
    (hallowed : target ∈ workflowTransitions run.status) :
    course.scene.Ensures (transitionWorkflow run target failure)
      ⟨some run, tasks, executions⟩
      (Ends (fun next last => run.SameIdentity next ∧ next.status = target ∧
        next.failure = failure ∧ last = ⟨some next, tasks, executions⟩) course.Bad) := by
  refine ensures_transitionWorkflow (fun at_ next hnext _ => ?_)
    fun error hharmless hcause => ?_
  · obtain ⟨-, hstatus, hfailure, hidentity, -⟩ := WorkflowRun.of_transition hnext
    exact ⟨⟨hlawful next, continues_of_attempts rfl⟩, hidentity, hstatus, hfailure, rfl⟩
  · refine ⟨fun _ => inOrder_of_harmless hharmless, fun _ => hcalled,
      .infirm fun hfirm => ?_⟩
    rcases hcause with hnaive | hrejected
    · exact hnaive hfirm.orderly
    · exact hrejected hallowed

/-- A run that has ended is reported with all its tasks. -/
theorem ensures_report {tasks : List TaskRecord} {executions : Calls}
    (hconcluded : run.status.isTerminal = true ∨ run.status = .unknownOutcome)
    (hkeys : tasks.map (fun task => task.taskRun.taskKey) =
      course.plan.tasks.map TaskPlanEntry.key) (diagnostics : List Diagnostic) :
    course.scene.Ensures (buildResult course.runId outputs diagnostics)
      ⟨some run, tasks, executions⟩
      (Ends (fun result last => last = ⟨some run, tasks, executions⟩ ∧
        Reports run tasks outputs result) fun _ _ => False) := by
  refine ensures_buildResult fun error _ hcause => ?_
  rcases hcause with hopen | hdistinct
  · exact hopen hconcluded
  · rw [hkeys] at hdistinct
    exact hdistinct course.plan.distinct

/-- The attempt that an executor was called for takes a transition. -/
theorem ensures_endAttempt (haround : course.Around entry done todo earlier)
    (hkey : task.taskRun.taskKey = entry.key)
    (hattempts : task.attempts = prior ++ [attempt])
    (htried : course.Tried entry outputs task.taskRun.taskRunId prior calls)
    {call : TaskExecutionRequest × Execution}
    (hcalled : course.Called entry outputs task.taskRun.taskRunId attempt call)
    (hrunning : attempt.status = .running) {target : TaskAttemptStatus}
    {failure : Option FailureEvidence}
    (hrefused : target ∉ taskAttemptTransitions .running →
      course.Cause ⟨some run, done ++ task :: todo, earlier ++ (calls ++ [call])⟩) :
    course.scene.Ensures (transitionAttempt attempt target failure)
      ⟨some run, done ++ task :: todo, earlier ++ (calls ++ [call])⟩
      (Ends (fun ended last => ∃ next, next.taskRun = task.taskRun ∧
        next.checkpoint = task.checkpoint ∧ next.attempts = prior ++ [ended] ∧
        ended.status = target ∧ ended.failure = failure ∧ attempt.SameIdentity ended ∧
        target ∈ taskAttemptTransitions .running ∧
        Launched next.attempts [] (calls ++ [call]) ∧
        last = ⟨some run, done ++ next :: todo, earlier ++ (calls ++ [call])⟩)
        course.Bad) := by
  have hstarted : ∀ status ∈ taskAttemptTransitions .running,
      status ≠ .pending ∧ status ≠ .starting := by decide
  refine ensures_transitionAttempt hattempts (fun at_ ended hended _ => ?_)
    fun error hharmless hcause => ?_
  · obtain ⟨htable, hstatus, hfailure, hidentity⟩ := TaskAttempt.of_transition hended
    rw [hrunning] at htable
    have hlaunched : Launched (prior ++ [ended]) [] (calls ++ [call]) :=
      htried.launched_called { hcalled with attemptId := hcalled.attemptId.trans hidentity.1 }
        (hstatus ▸ hstarted target htable)
    refine ⟨haround.keeps hkey (htried.disciplined_next ended) hlaunched (Nat.zero_le _)
      (by simp) (Or.inr fun other hother => ?_), { task with attempts := prior ++ [ended] },
      rfl, rfl, rfl, hstatus, hfailure, hidentity, htable, hlaunched, rfl⟩
    rw [hattempts] at hother
    rcases List.mem_append.mp hother with hmem | hmem
    · exact (htried.retried other hmem).decided
    · rw [List.mem_singleton.mp hmem, hrunning]
      simp
  · have hlaunched : Launched task.attempts [] (calls ++ [call]) := by
      rw [hattempts]
      exact htried.launched_called hcalled (by simp [hrunning])
    refine haround.bad hlaunched (by simp) (inOrder_of_harmless hharmless) ?_
    rcases hcause with hnaive | hrejected
    · exact .infirm fun hfirm => hnaive hfirm.orderly
    · rw [hrunning] at hrejected
      exact hrefused hrejected

end Changes

section Start

/-- The last attempt of the task takes a transition while no executor was called for it. -/
theorem ensures_advanceAttempt
    (haround : course.Around entry done todo earlier)
    (hkey : task.taskRun.taskKey = entry.key)
    (hattempts : task.attempts = prior ++ [attempt])
    (htried : course.Tried entry outputs task.taskRun.taskRunId prior calls)
    {target : TaskAttemptStatus} (hallowed : target ∈ taskAttemptTransitions attempt.status)
    (hstatus : attempt.status = .pending ∨ attempt.status = .starting)
    (htarget : target = .starting ∨ target = .running) :
    course.scene.Ensures (transitionAttempt attempt target none)
      ⟨some run, done ++ task :: todo, earlier ++ calls⟩
      (Ends (fun advanced last => ∃ next, next.taskRun = task.taskRun ∧
        next.checkpoint = task.checkpoint ∧ next.attempts = prior ++ [advanced] ∧
        advanced.status = target ∧ attempt.SameIdentity advanced ∧
        last = ⟨some run, done ++ next :: todo, earlier ++ calls⟩) course.Bad) := by
  refine ensures_transitionAttempt hattempts (fun at_ advanced hadvanced _ => ?_)
    fun error hharmless hcause => ?_
  · obtain ⟨-, hadvancedStatus, -, hidentity⟩ := TaskAttempt.of_transition hadvanced
    refine ⟨haround.keeps hkey (htried.disciplined_next advanced)
      (htried.launched_next advanced) (Nat.le_refl 1) ?_ (Or.inr ?_),
      { task with attempts := prior ++ [advanced] }, rfl, rfl, rfl, hadvancedStatus,
      hidentity, rfl⟩
    · intro other hother
      rw [List.mem_singleton.mp hother]
      exact Or.inr (hadvancedStatus ▸ htarget)
    · intro other hother
      rw [hattempts] at hother
      rcases List.mem_append.mp hother with hmem | hmem
      · exact (htried.retried other hmem).decided
      · rw [List.mem_singleton.mp hmem]
        rcases hstatus with heq | heq <;> simp [heq]
  · refine haround.bad (hattempts ▸ htried.launched_next attempt) (by simpa using hstatus)
      (inOrder_of_harmless hharmless) (.infirm fun hfirm => ?_)
    rcases hcause with hnaive | hrejected
    · exact hnaive hfirm.orderly
    · exact hrejected hallowed

/-- A new attempt is appended and started. -/
theorem ensures_startAttempt
    (haround : course.Around entry done todo earlier)
    (hkey : task.taskRun.taskKey = entry.key) (hrunning : task.taskRun.status = .running)
    (hprior : task.attempts = prior)
    (htried : course.Tried entry outputs task.taskRun.taskRunId prior calls) :
    course.scene.Ensures (startAttempt task.taskRun)
      ⟨some run, done ++ task :: todo, earlier ++ calls⟩
      (Ends (fun attempt last => ∃ next, next.taskRun = task.taskRun ∧
        next.checkpoint = task.checkpoint ∧ next.attempts = prior ++ [attempt] ∧
        attempt.status = .running ∧ attempt.attemptNumber = prior.length + 1 ∧
        (course.Orderly → course.attemptIds attempt.attemptId) ∧
        last = ⟨some run, done ++ next :: todo, earlier ++ calls⟩) course.Bad) := by
  have hdecided : ∀ attempt ∈ prior, attempt.status ≠ .unknownOutcome ∧
      attempt.status ≠ .requiresReconciliation :=
    fun attempt hattempt => (htried.retried attempt hattempt).decided
  have hmem : task ∈ done ++ task :: todo := by simp
  have hidle : Launched task.attempts [] calls := hprior ▸ htried.launched
  apply ensures_of_sound
  intro hsound
  unfold startAttempt
  have hlisted : course.scene.Ensures
      (query fun store => store.listTaskAttempts task.taskRun.taskRunId)
      ⟨some run, done ++ task :: todo, earlier ++ calls⟩
      (Ends (fun existing last => existing = task.attempts ∧
        last = ⟨some run, done ++ task :: todo, earlier ++ calls⟩) course.Bad) :=
    ensures_listTaskAttempts hmem ⟨rfl, rfl⟩
  refine hlisted.bind ?_ fun _ _ herror => herror
  rintro existing last ⟨rfl, rfl⟩
  have hasked : course.scene.Ensures (Program.ask Service.newTaskAttemptId)
      ⟨some run, done ++ task :: todo, earlier ++ calls⟩
      (Ends (fun attemptId last => last = ⟨some run, done ++ task :: todo, earlier ++ calls⟩ ∧
        course.answers ⟨some run, done ++ task :: todo, earlier ++ calls⟩
          .newTaskAttemptId attemptId) course.Bad) :=
    ensures_ask (by simp) fun _ hanswer _ => ⟨rfl, hanswer⟩
  refine hasked.bind ?_ fun _ _ herror => herror
  rintro attemptId last ⟨rfl, hanswer⟩
  have hclock : course.scene.Ensures now
      ⟨some run, done ++ task :: todo, earlier ++ calls⟩
      (Ends (fun _ last => last = ⟨some run, done ++ task :: todo, earlier ++ calls⟩)
        course.Bad) := by
    refine ensures_now (fun _ _ => rfl) fun hnone error hharmless => ?_
    exact haround.bad hidle (by simp) (inOrder_of_harmless hharmless)
      (.infirm fun hfirm => hfirm.orderly.clock _ hnone)
  refine hclock.bind ?_ fun _ _ herror => herror
  rintro at_ last rfl
  cases hnext : nextTaskAttempt task.taskRun task.attempts attemptId at_.instant with
  | error error =>
      refine ensures_done (haround.bad hidle (by simp) (nextTaskAttempt_inOrder hnext)
        (.infirm fun hfirm => ?_))
      obtain ⟨-, hnew⟩ := hfirm.orderly.attemptIds _ _ hanswer
      obtain ⟨attempt, hok⟩ := exists_nextTaskAttempt hrunning
        (hsound.attemptOwner task hmem) (hsound.nodup_attempts hmem)
        (hsound.numbered task hmem) (hnew task hmem)
        fun attempt hattempt => (htried.retried attempt (hprior ▸ hattempt)).status
      rw [hnext] at hok
      cases hok
  | ok attempt =>
      obtain ⟨-, hattempt⟩ := nextTaskAttempt_eq_ok hnext
      have hstatus : attempt.status = .pending := by rw [hattempt]; rfl
      have hid : attempt.attemptId = attemptId := by rw [hattempt]; rfl
      have hnumber : attempt.attemptNumber = task.attempts.length + 1 := by rw [hattempt]; rfl
      have hstored : course.scene.Ensures (onStore (Memory.appendTaskAttempt attempt))
          ⟨some run, done ++ task :: todo, earlier ++ calls⟩
          (Ends (fun _ last => ∃ next, next.taskRun = task.taskRun ∧
            next.checkpoint = task.checkpoint ∧ next.attempts = prior ++ [attempt] ∧
            last = ⟨some run, done ++ next :: todo, earlier ++ calls⟩) course.Bad) := by
        have hlaunched : Launched (task.attempts ++ [attempt]) [attempt] calls := by
          rw [hprior]
          exact htried.launched_next attempt
        have hdisciplined : Disciplined entry.retryPolicy (task.attempts ++ [attempt]) := by
          rw [hprior]
          exact htried.disciplined_next attempt
        have hwaiting : ∀ other ∈ [attempt], Unlaunched other := by
          intro other hother
          rw [List.mem_singleton.mp hother]
          exact Or.inl hstatus
        refine ensures_appendTaskAttempt hstatus (by rw [hattempt]; rfl) hnumber
          (fun _ => ⟨haround.keeps hkey hdisciplined hlaunched (Nat.le_refl 1) hwaiting
            (Or.inr (hprior ▸ hdecided)),
            { task with attempts := task.attempts ++ [attempt] }, rfl, rfl, by rw [hprior],
            rfl⟩) fun error hharmless hcause => ?_
        · refine haround.bad hidle (by simp) (inOrder_of_harmless hharmless)
            (.infirm fun hfirm => ?_)
          obtain ⟨hkept, hnew⟩ := hfirm.orderly.attemptIds _ _ hanswer
          rw [← hid] at hkept hnew
          obtain ⟨owner, howner, other, hother, heq⟩ := hcause hkept
          exact hnew owner howner other hother heq
      refine hstored.bind ?_ fun _ _ herror => herror
      rintro _ last ⟨appended, happendedRun, happendedCheckpoint, happended, rfl⟩
      have hstarting : TaskAttemptStatus.starting ∈ taskAttemptTransitions attempt.status := by
        rw [hstatus]
        decide
      refine (ensures_advanceAttempt haround (happendedRun ▸ hkey) happended
        (happendedRun ▸ htried) hstarting (Or.inl hstatus)
        (Or.inl rfl)).bind ?_ fun _ _ herror => herror
      rintro started last ⟨between, htaskRun, hcheckpoint, hattempts, hstarted, hsame, rfl⟩
      have hallowed : TaskAttemptStatus.running ∈ taskAttemptTransitions started.status := by
        rw [hstarted]
        decide
      have hrow : between.taskRun = task.taskRun := htaskRun.trans happendedRun
      refine (ensures_advanceAttempt haround (hrow ▸ hkey) hattempts (hrow ▸ htried) hallowed
        (Or.inr hstarted) (Or.inr rfl)).mono fun result last hresult => ?_
      cases result with
      | error error => exact hresult
      | ok launched =>
          obtain ⟨next, hnextRun, hnextCheckpoint, hnextAttempts, hlaunched, hsameLast, rfl⟩ :=
            hresult
          refine ⟨next, hnextRun.trans hrow,
            hnextCheckpoint.trans (hcheckpoint.trans happendedCheckpoint), hnextAttempts,
            hlaunched, ?_, fun horderly => ?_, rfl⟩
          · rw [← hsameLast.2.2.1, ← hsame.2.2.1, hnumber, hprior]
          · rw [← hsameLast.1, ← hsame.1, hid]
            exact (horderly.attemptIds _ _ hanswer).1

end Start

section Execution

variable {record : RunRecord} {request : TaskExecutionRequest}

theorem bad_of_late {error : PyError} (horder : InOrder error) (hlate : ¬ course.Prompt)
    (hquiet : Quiet record.executions) : course.Bad error record :=
  ⟨fun _ => horder, fun hprompt => absurd hprompt hlate,
    .rough (fun hsmooth => hlate hsmooth.prompt) hquiet⟩

theorem timedeltaSeconds_harmless {timeout : Number} {error : PyError}
    (herror : timedeltaSeconds timeout = .error error) : Harmless error := by
  unfold timedeltaSeconds at herror
  simp only at herror
  split_ifs at herror
  cases herror
  simp [Harmless, PyError.errorClass]

/-- Only a deadline that cannot be told stops an attempt before its call. -/
theorem ensures_executionDeadline (hentry : entry ∈ course.plan.tasks)
    (hquiet : Quiet record.executions) :
    course.scene.Ensures (executionDeadline entry) record
      (Ends (fun _ last => last = record) course.Bad) := by
  unfold executionDeadline
  split
  · exact ensures_pure rfl
  · next timeout htimeout =>
    have hclock : course.scene.Ensures now record
        (Ends (fun at_ last => last = record ∧ course.answers record .now (some at_))
          course.Bad) := by
      refine ensures_now (fun at_ hanswer => ⟨rfl, hanswer⟩) fun hnone error hharmless => ?_
      refine bad_of_late (inOrder_of_harmless hharmless) (fun hprompt => ?_) hquiet
      obtain ⟨at_, -, hat, -⟩ := hprompt entry hentry timeout htimeout record none hnone
      cases hat
    refine hclock.bind ?_ fun _ _ herror => herror
    rintro at_ last ⟨rfl, hanswer⟩
    have hrepresentable : course.Prompt →
        ∃ delta, timedeltaSeconds timeout = .ok delta ∧ at_.add? delta ≠ none := by
      intro hprompt
      obtain ⟨_, delta, hreading, hdelta, hadd⟩ :=
        hprompt entry hentry timeout htimeout last (some at_) hanswer
      cases hreading
      exact ⟨delta, hdelta, hadd⟩
    refine ensures_ofExcept_bind (fun delta hdelta => ?_) fun error herror => ?_
    · split
      · next hdeadline =>
        refine ensures_raise (bad_of_late (inOrder_of_harmless
          (by simp [Harmless, PyError.errorClass])) (fun hprompt => ?_) hquiet)
        obtain ⟨other, hother, hadd⟩ := hrepresentable hprompt
        rw [hdelta] at hother
        cases hother
        exact hadd hdeadline
      · exact ensures_pure rfl
    · refine bad_of_late (inOrder_of_harmless (timedeltaSeconds_harmless herror))
        (fun hprompt => ?_) hquiet
      obtain ⟨delta, hok, -⟩ := hrepresentable hprompt
      rw [herror] at hok
      cases hok

/-- What an executor's answer becomes. -/
def Yields (course : Course) (request : TaskExecutionRequest) (answer : Execution) :
    Except PyError TaskExecutionResult → Prop
  | .ok result =>
      outputOf answer = outputOf (.returned result) ∧
        (course.Smooth → ∀ failure ∈ result.failure,
          failure.category = .cancelled → Uncertain failure) ∧
        ∀ typeName message, answer = .raised typeName message →
          ∃ evidence, result.failure = some evidence ∧
            Reported request typeName message evidence
  | .error error => InOrder error ∧ ¬ course.Smooth ∧ Quiet [(request, answer)]

/-- An executor is called, and its answer becomes a result or an error. -/
theorem ensures_executeRequest (hrun : request.context.workflowRunId = course.runId)
    (hresolves : ∃ executor,
      course.runtime.executors.resolve request.executorKey = .ok executor)
    (hadmits : course.Admits record request) :
    course.scene.Ensures (executeRequest course.runtime.executors request) record
      (Ends (fun executed last => ∃ answer,
        (∃ record, course.answers record (.execute request) answer) ∧
        last = { record with executions := record.executions ++ [(request, answer)] } ∧
        course.Yields request answer executed) fun _ _ => False) := by
  obtain ⟨executor, hexecutor⟩ := hresolves
  unfold executeRequest
  rw [hexecutor]
  simp only
  have hcalled : course.scene.Ensures (Program.ask (Service.execute request)) record
      (Ends (fun answer last => (∃ record, course.answers record (.execute request) answer) ∧
        last = { record with executions := record.executions ++ [(request, answer)] })
        fun _ _ => False) :=
    ensures_execute hrun hadmits fun answer hanswer => ⟨⟨_, hanswer⟩, rfl⟩
  refine hcalled.bind ?_ fun _ _ herror => herror
  rintro answer last ⟨⟨moment, hanswer⟩, rfl⟩
  cases answer with
  | returned result =>
      refine ensures_pure ⟨_, ⟨moment, hanswer⟩, rfl, rfl, fun hsmooth => ?_, by simp⟩
      rcases hsmooth.answered moment request _ hanswer with ⟨other, hother, hcategory⟩ |
        ⟨typeName, message, hother, -⟩
      · cases hother
        exact hcategory
      · cases hother
  | foreign =>
      refine ensures_pure ⟨_, ⟨moment, hanswer⟩, rfl, inOrder_of_getLast? (by decide),
        fun hsmooth => ?_, by simp [Quiet]⟩
      rcases hsmooth.answered moment request _ hanswer with ⟨other, hother, -⟩ |
        ⟨typeName, message, hother, -⟩
      · cases hother
      · cases hother
  | raised typeName message =>
      have hclock : course.scene.Ensures (Program.ask Service.utcNow)
          { record with executions := record.executions ++ [(request, .raised typeName message)] }
          (Ends (fun _ last => last = { record with
            executions := record.executions ++ [(request, .raised typeName message)] })
            fun _ _ => False) := ensures_ask (by simp) fun _ _ _ => rfl
      refine hclock.bind ?_ fun _ _ herror => herror
      rintro occurredAt last rfl
      have hillegible : ∀ error, Harmless error → ¬ Legible typeName message →
          course.scene.Ensures (pure (.error error))
            { record with
              executions := record.executions ++ [(request, .raised typeName message)] }
            (Ends (fun executed last => ∃ answer,
              (∃ record, course.answers record (.execute request) answer) ∧
              last = { record with executions := record.executions ++ [(request, answer)] } ∧
              course.Yields request answer executed) fun _ _ => False) := by
        intro error hharmless hillegible
        refine ensures_pure ⟨_, ⟨moment, hanswer⟩, rfl, inOrder_of_harmless hharmless,
          fun hsmooth => ?_, ?_⟩
        · rcases hsmooth.answered moment request _ hanswer with ⟨other, hother, -⟩ |
            ⟨_, _, hother, hlegible⟩
          · cases hother
          · cases hother
            exact hillegible hlegible
        · intro call hcall otherName otherMessage hraised
          rw [List.mem_singleton.mp hcall] at hraised
          cases hraised
          exact hillegible
      split
      · next hcode =>
        refine hillegible _ (by simp [Harmless, PyError.errorClass]) fun hlegible => ?_
        have hblank := Text.ofString?_eq_none hcode
        rw [hlegible.1] at hblank
        cases hblank
      · next code hcode hsummary =>
        refine hillegible _ (by simp [Harmless, PyError.errorClass]) fun hlegible => ?_
        have hblank := Text.ofString?_eq_none hsummary
        split at hblank
        · rw [hlegible.1] at hblank
          cases hblank
        · next hmessage =>
          rw [hlegible.2.resolve_left hmessage] at hblank
          cases hblank
      · next code summary hcode hsummary =>
        refine ensures_pure ⟨_, ⟨moment, hanswer⟩, rfl, rfl, fun _ failure hfailure hkind => ?_,
          fun otherName otherMessage hraised => ?_⟩
        · cases hfailure
          cases hkind
        · cases hraised
          exact ⟨_, rfl, code, summary, occurredAt.instant, Text.value_of_ofString? hcode,
            Text.value_of_ofString? hsummary, rfl⟩

end Execution

section Conclusions

/-- The checkpoint of a task holds its output. -/
theorem ensures_persistOutputCheckpoint (haround : course.Around entry done todo earlier)
    (hkey : task.taskRun.taskKey = entry.key)
    (hdisciplined : Disciplined entry.retryPolicy task.attempts)
    (hlaunched : Launched task.attempts [] calls)
    (hstatus : task.taskRun.status = .succeeded) (hnone : task.checkpoint = none)
    (output : PyValue) (noted : WorkflowRun) (attemptId : TaskAttemptId) :
    course.scene.Ensures (persistOutputCheckpoint task.taskRun output noted attemptId)
      ⟨some run, done ++ task :: todo, earlier ++ calls⟩
      (Ends (fun _ last => ∃ next, next.taskRun = task.taskRun ∧
        next.attempts = task.attempts ∧
        (∀ checkpoint ∈ next.checkpoint, ∃ path,
          normalizeJsonValue path output = .ok checkpoint.output) ∧
        last = ⟨some run, done ++ next :: todo, earlier ++ calls⟩) fun _ _ => False) := by
  have hunchanged : ∀ noted : Option Diagnostic, course.scene.Ensures (pure noted)
      ⟨some run, done ++ task :: todo, earlier ++ calls⟩
      (Ends (fun _ last => ∃ next, next.taskRun = task.taskRun ∧
        next.attempts = task.attempts ∧
        (∀ checkpoint ∈ next.checkpoint, ∃ path,
          normalizeJsonValue path output = .ok checkpoint.output) ∧
        last = ⟨some run, done ++ next :: todo, earlier ++ calls⟩) fun _ _ => False) :=
    fun noted => ensures_pure ⟨task, rfl, rfl, by simp [hnone], rfl⟩
  unfold persistOutputCheckpoint
  split
  · exact hunchanged _
  next json hjson =>
  have hclock : course.scene.Ensures (Program.ask Service.now)
      ⟨some run, done ++ task :: todo, earlier ++ calls⟩
      (Ends (fun _ last => last = ⟨some run, done ++ task :: todo, earlier ++ calls⟩)
        fun _ _ => False) := ensures_ask (by simp) fun _ _ _ => rfl
  refine hclock.bind ?_ fun _ _ herror => herror
  rintro reading last rfl
  split
  · exact hunchanged _
  split
  · exact hunchanged _
  next checkpoint hcheckpoint =>
  have howner := (TaskOutputCheckpoint.new_eq_ok hcheckpoint).1
  have houtput : checkpoint.output = json :=
    TaskOutputCheckpoint.output_of_new_object (sorted_of_normalize _ _ hjson) hcheckpoint
  have hstored : course.scene.Ensures (onStore (Memory.setTaskOutputCheckpoint checkpoint))
      ⟨some run, done ++ task :: todo, earlier ++ calls⟩
      (Ends (fun _ last => last = ⟨some run,
        done ++ { task with checkpoint := some checkpoint } :: todo, earlier ++ calls⟩)
        fun _ _ => False) :=
    ensures_setTaskOutputCheckpoint howner (Or.inl hstatus) hnone fun _ =>
      ⟨haround.keeps hkey hdisciplined hlaunched (Nat.zero_le _) (by simp) (Or.inl rfl), rfl⟩
  refine hstored.bind ?_ fun _ _ herror => herror
  rintro _ last rfl
  refine ensures_pure ⟨{ task with checkpoint := some checkpoint }, rfl, rfl, ?_, rfl⟩
  intro other hother
  cases hother
  exact ⟨_, houtput ▸ hjson⟩

/-- The attempt succeeded. -/
theorem ensures_concludeSucceeded
    (hstage : course.Stage before entry after done todo outputs earlier)
    (hallowed : course.Ruled done entry true) (hkey : task.taskRun.taskKey = entry.key)
    (hstatus : task.taskRun.status = .running) (hnone : task.checkpoint = none)
    (hattempts : task.attempts = prior ++ [attempt]) (hattempt : attempt.status = .running)
    (htried : course.Tried entry outputs task.taskRun.taskRunId prior calls)
    {call : TaskExecutionRequest × Execution}
    (hcalled : course.Called entry outputs task.taskRun.taskRunId attempt call)
    {output : PyValue} (houtput : outputOf call.2 = some output)
    (hrun : run.status = .running) {progress : PlanProgress}
    (hprogress : progress.outputs = outputs) :
    course.scene.Ensures
      (concludeSucceeded entry course.runId progress task.taskRun attempt output)
      ⟨some run, done ++ task :: todo, earlier ++ (calls ++ [call])⟩
      (Ends (course.TaskEnds before entry done todo outputs earlier run) course.Bad) := by
  have haround := hstage.around
  unfold concludeSucceeded
  refine (ensures_endAttempt haround hkey hattempts htried hcalled hattempt
    fun hrefused => absurd (by decide) hrefused).bind ?_ fun _ _ herror => herror
  rintro ended last ⟨concluded, hrow, hcheckpoint, hended, hendedStatus, -, hidentity, -,
    hlaunched, rfl⟩
  have hdisciplined : Disciplined entry.retryPolicy concluded.attempts := by
    rw [hended]
    exact htried.disciplined_next ended
  have hsucceeds : TaskRunStatus.succeeded ∈ taskRunTransitions concluded.taskRun.status := by
    rw [hrow, hstatus]
    decide
  rw [← hrow]
  refine (ensures_changeTask haround (hrow ▸ hkey) hdisciplined hlaunched (by simp)
    (by simp) hsucceeds).bind ?_ fun _ _ herror => herror
  rintro changed last ⟨succeeded, rfl, hsame, hsameCheckpoint, hbecame, rfl⟩
  have hsucceededKey : succeeded.taskRun.taskKey = entry.key :=
    hbecame.identity.2.2.1.symm.trans (hrow ▸ hkey)
  refine (ensures_persistOutputCheckpoint haround hsucceededKey (hsame ▸ hdisciplined)
    (hsame ▸ hlaunched) hbecame.status (hsameCheckpoint.trans (hcheckpoint.trans hnone))
    output _ _).bind ?_ fun _ _ herror => False.elim herror
  rintro noted last ⟨stored, hstoredRow, hstoredAttempts, hstored, rfl⟩
  have hread : course.scene.Ensures (onStore (Memory.getWorkflowRun course.runId))
      ⟨some run, done ++ stored :: todo, earlier ++ (calls ++ [call])⟩
      (Ends (fun current last => current = run ∧
        last = ⟨some run, done ++ stored :: todo, earlier ++ (calls ++ [call])⟩)
        course.Bad) := ensures_getWorkflowRun rfl ⟨rfl, rfl⟩
  refine hread.bind ?_ fun _ _ herror => herror
  rintro current last ⟨rfl, rfl⟩
  rw [if_neg (by simp [hrun])]
  have htaskRunId : task.taskRun.taskRunId = stored.taskRun.taskRunId := by
    rw [hstoredRow, ← hbecame.identity.1, hrow]
  refine ensures_pure (.succeeded rfl ?_)
  change course.Walked (before ++ [entry]) (done ++ [stored])
    (progress.outputs.set (entry.key, output)) (earlier ++ (calls ++ [call]))
  rw [hprogress]
  exact .succeeded hstage.walked hstage.computed hallowed
    (hstoredRow ▸ hsucceededKey) (hstoredRow ▸ hbecame.status) (htaskRunId ▸ htried)
    (hstoredAttempts.trans (hsame.trans hended)) hendedStatus
    { htaskRunId ▸ hcalled with attemptId := hcalled.attemptId.trans hidentity.1 } houtput
    hstored

/-- The attempt ended without saying whether its work is done. -/
theorem ensures_concludeUncertain
    (hstage : course.Stage before entry after done todo outputs earlier)
    (hkey : task.taskRun.taskKey = entry.key) (hstatus : task.taskRun.status = .running)
    (hattempts : task.attempts = prior ++ [attempt]) (hattempt : attempt.status = .running)
    (htried : course.Tried entry outputs task.taskRun.taskRunId prior calls)
    {call : TaskExecutionRequest × Execution}
    (hcalled : course.Called entry outputs task.taskRun.taskRunId attempt call)
    (hunraised : Unraised (calls ++ [call]))
    (hrun : run.status = .running) {progress : PlanProgress} (hprogress : progress.run = run)
    (houtputs : progress.outputs = outputs) (failure : FailureEvidence)
    (decision : RetryDecision) :
    course.scene.Ensures
      (concludeUncertain course.runId progress task.taskRun attempt failure decision)
      ⟨some run, done ++ task :: todo, earlier ++ (calls ++ [call])⟩
      (Ends (fun result => course.TaskEnds before entry done todo outputs earlier run
        (.returned result)) course.Bad) := by
  have haround := hstage.around
  unfold concludeUncertain
  simp only
  have hopens : ∀ target : TaskAttemptStatus,
      target = (if decision = .reconcile then .requiresReconciliation else .unknownOutcome) →
        target ∈ taskAttemptTransitions .running := by
    rintro target rfl
    split <;> decide
  refine (ensures_endAttempt haround hkey hattempts htried hcalled hattempt
    fun hrefused => absurd (hopens _ rfl) hrefused).bind ?_ fun _ _ herror => herror
  rintro ended last ⟨concluded, hrow, -, hended, -, -, -, -, hlaunched, rfl⟩
  have hdisciplined : Disciplined entry.retryPolicy concluded.attempts := by
    rw [hended]
    exact htried.disciplined_next ended
  have hallowed : TaskRunStatus.unknownOutcome ∈ taskRunTransitions concluded.taskRun.status := by
    rw [hrow, hstatus]
    decide
  rw [← hrow]
  refine (ensures_changeTask haround (hrow ▸ hkey) hdisciplined hlaunched (by simp)
    (by simp) hallowed).bind ?_ fun _ _ herror => herror
  rintro changed last ⟨unknown, rfl, hsame, -, hbecame, rfl⟩
  have hunknownKey : unknown.taskRun.taskKey = entry.key :=
    hbecame.identity.2.2.1.symm.trans (hrow ▸ hkey)
  have hunknown : Launched unknown.attempts [] (calls ++ [call]) := hsame ▸ hlaunched
  rw [hprogress, houtputs]
  refine (ensures_changeRun (fun next => ?_) ?_ (by rw [hrun]; decide)).bind ?_
    fun _ _ herror => herror
  · exact lawful_split haround.behind haround.ahead
      (planned_of_computed haround.mem haround.computed hunknownKey (hsame ▸ hdisciplined))
      hunknown (Nat.zero_le _) (by simp)
  · exact (launched_split haround.behind haround.ahead hunknown).allCalled (by simp)
  rintro next last ⟨-, hnext, -, rfl⟩
  refine (ensures_report (Or.inr hnext) (hstage.keys hunknownKey) _).mono
    fun result last hresult => ?_
  cases result with
  | error error => exact hresult.elim
  | ok result =>
      obtain ⟨rfl, hreports⟩ := hresult
      exact .unknown hnext hunknownKey hbecame.status hunknown hunraised hreports

theorem ensures_taskElapsedSeconds {record : RunRecord} {taskRun : TaskRun}
    (hstarted : taskRun.startedAt.isSome = true) (hcalled : AllCalled record) :
    course.scene.Ensures (taskElapsedSeconds taskRun) record
      (Ends (fun elapsed last => last = record ∧
        ∃ value, elapsed = .finite value ∧ 0 ≤ value) course.Bad) := by
  obtain ⟨startedAt, hstartedAt⟩ := Option.isSome_iff_exists.mp hstarted
  unfold taskElapsedSeconds
  rw [hstartedAt]
  simp only
  have hclock : course.scene.Ensures now record (Ends (fun _ last => last = record)
      course.Bad) :=
    ensures_now (fun _ _ => rfl) fun hnone _ hharmless =>
      bad_of_called hcalled hharmless (.infirm fun hfirm => hfirm.orderly.clock _ hnone)
  refine hclock.bind ?_ fun _ _ herror => herror
  rintro at_ last rfl
  obtain ⟨seconds, hseconds⟩ := totalSeconds_eq_finite at_.instant startedAt
  obtain ⟨bounded, hbounded, hnonneg⟩ := atLeastZero_finite seconds
  exact ensures_pure ⟨rfl, bounded, by rw [hseconds, hbounded], hnonneg⟩

/-- An attempt cannot end as cancelled without a request to cancel it. -/
theorem attemptTerminalStatus_mem (failure : FailureEvidence) :
    attemptTerminalStatus failure ∈ taskAttemptTransitions .running ↔
      failure.category ≠ .cancelled := by
  unfold attemptTerminalStatus
  cases failure.category <;> decide

theorem attemptTerminalStatus_eq {failure : FailureEvidence}
    (hcategory : failure.category ≠ .cancelled) :
    attemptTerminalStatus failure = .failed ∨ attemptTerminalStatus failure = .timedOut := by
  unfold attemptTerminalStatus
  cases hkind : failure.category <;> simp_all

theorem taskTerminalStatus_eq {failure : FailureEvidence}
    (hcategory : failure.category ≠ .cancelled) :
    taskTerminalStatus failure = .failed ∨ taskTerminalStatus failure = .timedOut := by
  unfold taskTerminalStatus
  cases hkind : failure.category <;> simp_all

/-- The attempt failed: it is tried again, given up, or its outcome stays open. -/
theorem ensures_concludeFailed
    (hstage : course.Stage before entry after done todo outputs earlier)
    (hkey : task.taskRun.taskKey = entry.key) (hstatus : task.taskRun.status = .running)
    (hstarted : task.taskRun.startedAt.isSome = true) (hnone : task.checkpoint = none)
    (hattempts : task.attempts = prior ++ [attempt]) (hattempt : attempt.status = .running)
    (hnumber : attempt.attemptNumber = prior.length + 1)
    (htried : course.Tried entry outputs task.taskRun.taskRunId prior calls)
    {call : TaskExecutionRequest × Execution}
    (hcalled : course.Called entry outputs task.taskRun.taskRunId attempt call)
    (houtput : outputOf call.2 = none) {failure : FailureEvidence}
    (hraised : ∀ typeName message, call.2 = .raised typeName message →
      Reported call.1 typeName message failure)
    (hcategory : course.Smooth → failure.category = .cancelled → Uncertain failure)
    (hrun : run.status = .running) {progress : PlanProgress} (hprogress : progress.run = run)
    (houtputs : progress.outputs = outputs) {rounds : Nat}
    (hrounds : prior.length + (rounds + 1) = entry.retryPolicy.maxAttempts) :
    course.scene.Ensures
      (concludeFailed entry course.runId progress task.taskRun attempt failure)
      ⟨some run, done ++ task :: todo, earlier ++ (calls ++ [call])⟩
      (Ends (course.RoundEnds before entry done todo outputs earlier run rounds)
        course.Bad) := by
  have haround := hstage.around
  have hallCalled : AllCalled
      ⟨some run, done ++ task :: todo, earlier ++ (calls ++ [call])⟩ := by
    have hlaunched : Launched task.attempts [] (calls ++ [call]) := by
      rw [hattempts]
      exact htried.launched_called hcalled (by simp [hattempt])
    exact (launched_split haround.behind haround.ahead hlaunched).allCalled (by simp)
  have hothers : Unraised (calls ++ [call]) ∨ failure.category = .internal ∧
      failure.retryability = .nonRetryable ∧ failure.uncertainty = .known := by
    by_cases hcall : ∃ typeName message, call.2 = .raised typeName message
    · obtain ⟨typeName, message, hcall⟩ := hcall
      exact Or.inr (hraised typeName message hcall).kind
    · refine Or.inl (htried.unraised.append fun made hmade typeName message hmessage => ?_)
      rw [List.mem_singleton.mp hmade] at hmessage
      exact hcall ⟨typeName, message, hmessage⟩
  have hquiet : Unraised (calls ++ [call]) → Quiet (earlier ++ (calls ++ [call])) :=
    fun hunraised => (hstage.walked.unraised.append hunraised).quiet
  unfold concludeFailed
  refine (ensures_taskElapsedSeconds hstarted hallCalled).bind ?_ fun _ _ herror => herror
  rintro _ last ⟨rfl, elapsed, rfl, helapsed⟩
  have hpositive : (1 : Int) ≤ attempt.attemptNumber := by omega
  refine (ensures_evaluate haround.mem hpositive helapsed hallCalled fun hretryable =>
    ?_).bind ?_ fun _ _ herror => herror
  · rcases hothers with hunraised | ⟨-, hrefused, -⟩
    · exact hquiet hunraised
    · rw [hretryable] at hrefused
      cases hrefused
  rintro evaluated last ⟨rfl, hevaluated⟩
  simp only
  have hnotedRun : ∀ (noted : PlanProgress) diagnostics, noted.run = run →
      (noted.note diagnostics).run = run := fun _ _ hnoted => hnoted
  have hnotedOutputs : ∀ (noted : PlanProgress) diagnostics, noted.outputs = outputs →
      (noted.note diagnostics).outputs = outputs := fun _ _ hnoted => hnoted
  split
  · next hdecision =>
    have hunraised : Unraised (calls ++ [call]) := by
      rcases hothers with hunraised | ⟨hinternal, hfinal, hknown⟩
      · exact hunraised
      · cases hevaluated with
        | uncertain huncertain =>
            rcases huncertain with hunknown | hreconcile | hopen
            · exact absurd hknown hunknown
            · rw [hfinal] at hreconcile
              cases hreconcile
            · rw [hinternal] at hopen
              cases hopen
        | refused _ hrefused => simp [hrefused] at hdecision
        | retried _ hretried => simp [hretried] at hdecision
    refine (ensures_concludeUncertain hstage hkey hstatus hattempts hattempt htried hcalled
      hunraised hrun (hnotedRun _ _ hprogress) (hnotedOutputs _ _ houtputs) failure _).bind ?_
      fun _ _ herror => herror
    exact fun result last hends => ensures_pure (.ended hends)
  next hdecision =>
  have hcertain : ¬ Uncertain failure := by
    cases hevaluated with
    | uncertain _ hopen => exact absurd hopen hdecision
    | refused hcertain => exact hcertain
    | retried hcertain => exact hcertain
  refine (ensures_endAttempt haround hkey hattempts htried hcalled hattempt
    fun hrefused => ?_).bind ?_ fun _ _ herror => herror
  · have hcancelled : failure.category = .cancelled :=
      not_not.mp (mt (attemptTerminalStatus_mem failure).mpr hrefused)
    refine .rough (fun hsmooth => hcertain (hcategory hsmooth hcancelled)) (hquiet ?_)
    rcases hothers with hunraised | ⟨hinternal, -, -⟩
    · exact hunraised
    · rw [hcancelled] at hinternal
      cases hinternal
  rintro ended last ⟨concluded, hrow, hcheckpoint, hended, hendedStatus, hendedFailure,
    hidentity, htable, hlaunched, rfl⟩
  have hkind := (attemptTerminalStatus_mem failure).mp htable
  have hcalledEnded : course.Called entry outputs task.taskRun.taskRunId ended call :=
    { hcalled with attemptId := hcalled.attemptId.trans hidentity.1 }
  rw [← hrow]
  split
  · next hretry =>
    obtain ⟨hbelow, hretryable, hcategories⟩ : attempt.attemptNumber <
        entry.retryPolicy.maxAttempts ∧ failure.retryability = .retryable ∧
        (entry.retryPolicy.retryableFailureCategories = [] ∨
          failure.category ∈ entry.retryPolicy.retryableFailureCategories) := by
      cases hevaluated with
      | uncertain _ hopen => exact absurd hopen hdecision
      | refused _ hrefused =>
          rw [hrefused] at hretry
          cases hretry
      | retried _ _ hbelow hretryable hcategories => exact ⟨hbelow, hretryable, hcategories⟩
    have hretried : Retried entry.retryPolicy ended := by
      refine ⟨?_, failure, hendedFailure, ?_, hretryable, hcategories⟩
      · rw [hendedStatus]
        exact attemptTerminalStatus_eq hkind
      · exact not_not.mp fun hunknown => hcertain (Or.inl hunknown)
    have htriedAgain : course.Tried entry outputs concluded.taskRun.taskRunId
        concluded.attempts (calls ++ [call]) := by
      rw [hrow, hended]
      refine ⟨List.rel_append htried.called (.cons hcalledEnded .nil), ?_, ?_, ?_, ?_⟩
      · intro made hmade
        rcases List.mem_append.mp hmade with hmem | hmem
        · exact htried.failed made hmem
        · rw [List.mem_singleton.mp hmem]
          exact houtput
      · rcases hothers with hunraised | ⟨-, hrefused, -⟩
        · exact hunraised
        · rw [hretryable] at hrefused
          cases hrefused
      · intro other hother
        rcases List.mem_append.mp hother with hmem | hmem
        · exact htried.retried other hmem
        · rw [List.mem_singleton.mp hmem]
          exact hretried
      · rw [List.length_append, List.length_singleton]
        omega
    have hlength : concluded.attempts.length + rounds = entry.retryPolicy.maxAttempts := by
      rw [hended, List.length_append, List.length_singleton]
      omega
    have hagain : ∀ noted : PlanProgress, noted.run = run → noted.outputs = outputs →
        course.RoundEnds before entry done todo outputs earlier run rounds
          (.retry noted concluded.taskRun)
          ⟨some run, done ++ concluded :: todo, earlier ++ (calls ++ [call])⟩ :=
      fun _ hnoted hnotedOutputs => .retry hnoted hnotedOutputs (hrow ▸ hkey)
        (hrow ▸ hstatus) (hrow ▸ hstarted) (hcheckpoint.trans hnone) htriedAgain hlength
    split
    · have hwaited : course.scene.Ensures
          (Program.ask (Service.wait course.runId evaluated.delaySeconds))
          ⟨some run, done ++ concluded :: todo, earlier ++ (calls ++ [call])⟩
          (Ends (fun _ last => last =
            ⟨some run, done ++ concluded :: todo, earlier ++ (calls ++ [call])⟩)
            course.Bad) := ensures_ask (by simp) fun _ _ _ => rfl
      refine hwaited.bind ?_ fun _ _ herror => herror
      rintro _ last rfl
      exact ensures_pure (hagain _ (hnotedRun _ _ (hnotedRun _ _ hprogress))
        (hnotedOutputs _ _ (hnotedOutputs _ _ houtputs)))
    · exact ensures_pure (hagain _ (hnotedRun _ _ (hnotedRun _ _ hprogress))
        (hnotedOutputs _ _ (hnotedOutputs _ _ houtputs)))
  · have hdisciplined : Disciplined entry.retryPolicy concluded.attempts := by
      rw [hended]
      exact htried.disciplined_next ended
    have hterminal := taskTerminalStatus_eq hkind
    have hallowed : taskTerminalStatus failure ∈
        taskRunTransitions concluded.taskRun.status := by
      rw [hrow, hstatus]
      rcases hterminal with heq | heq <;> rw [heq] <;> decide
    have hskip : (none : Option SkipReason).isSome = true ↔
        taskTerminalStatus failure = .skipped := by
      rcases hterminal with heq | heq <;> rw [heq] <;> decide
    have hblock : taskTerminalStatus failure ≠ .blocked := by
      rcases hterminal with heq | heq <;> rw [heq] <;> decide
    refine (ensures_changeTask haround (hrow ▸ hkey) hdisciplined hlaunched hskip hblock
      hallowed).bind ?_ fun _ _ herror => herror
    rintro changed last ⟨failed, rfl, hsame, -, hbecame, rfl⟩
    have hfailedKey : failed.taskRun.taskKey = entry.key :=
      hbecame.identity.2.2.1.symm.trans (hrow ▸ hkey)
    have hbehind : course.Behind [failed] (calls ++ [call]) := by
      refine ⟨fun other hother => ?_, ?_, fun other hother => ?_⟩
      · rw [List.mem_singleton.mp hother]
        exact planned_of_computed haround.mem haround.computed hfailedKey (hsame ▸ hdisciplined)
      · rw [attemptsIn_cons, attemptsIn_nil, List.append_nil, hsame]
        exact hlaunched
      · rw [attemptsIn_cons, attemptsIn_nil, List.append_nil, hsame, hended] at hother
        rcases List.mem_append.mp hother with hmem | hmem
        · exact (htried.retried other hmem).decided
        · rw [List.mem_singleton.mp hmem, hendedStatus]
          rcases attemptTerminalStatus_eq hkind with heq | heq <;> simp [heq]
    exact ensures_pure (.ended (.failed (hnotedRun _ _ (hnotedRun _ _ hprogress))
      (hnotedOutputs _ _ (hnotedOutputs _ _ houtputs))
      ⟨hfailedKey, hbecame.status, hbecame.failure, hkind, hbehind, prior, ended, calls, call,
        hsame.trans hended, rfl, hcalledEnded.attemptId, hendedStatus, hendedFailure,
        htried.unraised, hraised⟩))

end Conclusions

end Course

end PyWorkflowKit.Runtime
