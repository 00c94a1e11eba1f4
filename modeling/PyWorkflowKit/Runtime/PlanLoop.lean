import PyWorkflowKit.Runtime.Rounds

/-!
# The loops over attempts and tasks

When an executor may be called, what the attempt loop of a task comes to, and what
the loop over the tasks of a plan comes to.
-/

namespace PyWorkflowKit.Runtime

open PyWorkflowKit.Core PyWorkflowKit.Domain PyWorkflowKit.States
open PyWorkflowKit.Persistence PyWorkflowKit.Executors PyWorkflowKit.Planning
open PyWorkflowKit.Policies Program Scene

namespace Course

variable {course : Course} {before after : List TaskPlanEntry} {entry : TaskPlanEntry}
  {done todo : List TaskRecord} {outputs : Outputs} {earlier calls : Calls}
  {run : WorkflowRun} {task : TaskRecord} {prior : List TaskAttempt} {attempt : TaskAttempt}
  {correlation : CorrelationContext}

section Readiness

theorem statusIn_eq_some {tasks : List TaskRecord} {taskKey : Text} {status : TaskRunStatus}
    (hstatus : statusIn tasks taskKey = some status) :
    ∃ task ∈ tasks, task.taskRun.taskKey = taskKey ∧ task.taskRun.status = status := by
  obtain ⟨task, hfound, heq⟩ := Option.map_eq_some_iff.mp hstatus
  have hkey := List.find?_some hfound
  exact ⟨task, List.mem_of_find?_eq_some hfound, by simpa using hkey, heq⟩

theorem statusIn_append {tasks : List TaskRecord} {taskKey : Text} {status : TaskRunStatus}
    (hstatus : statusIn tasks taskKey = some status) (others : List TaskRecord) :
    statusIn (tasks ++ others) taskKey = some status := by
  obtain ⟨task, hfound, heq⟩ := Option.map_eq_some_iff.mp hstatus
  unfold statusIn
  rw [List.find?_append, hfound]
  exact congrArg some heq

/-- Every dependency has one of the statuses that the trigger rule is asked about. -/
theorem Upstream.status {tasks : List TaskRecord} {upstream : List TaskRunStatus}
    (hupstream : Upstream tasks entry upstream) {taskKey : Text}
    (hdependency : taskKey ∈ entry.dependencies) :
    ∃ status ∈ upstream, statusIn tasks taskKey = some status := by
  have hmem : statusIn tasks taskKey ∈ upstream.map some := by
    rw [← hupstream]
    exact List.mem_map_of_mem hdependency
  obtain ⟨status, hstatus, heq⟩ := List.mem_map.mp hmem
  exact ⟨status, hstatus, heq.symm⟩

/-- Every status that the trigger rule is asked about is that of a dependency. -/
theorem Upstream.mem {tasks : List TaskRecord} {upstream : List TaskRunStatus}
    (hupstream : Upstream tasks entry upstream) {status : TaskRunStatus}
    (hstatus : status ∈ upstream) :
    ∃ task ∈ tasks, task.taskRun.taskKey ∈ entry.dependencies ∧
      task.taskRun.status = status := by
  have hmem : some status ∈ entry.dependencies.map (statusIn tasks) := by
    rw [hupstream]
    exact List.mem_map_of_mem hstatus
  obtain ⟨taskKey, hdependency, heq⟩ := List.mem_map.mp hmem
  obtain ⟨task, htask, hkey, hthis⟩ := statusIn_eq_some heq
  exact ⟨task, htask, by rw [hkey]; exact hdependency, hthis⟩

theorem Upstream.append {tasks : List TaskRecord} {upstream : List TaskRunStatus}
    (hupstream : Upstream tasks entry upstream) (others : List TaskRecord) :
    Upstream (tasks ++ others) entry upstream := by
  unfold Upstream
  rw [← hupstream]
  apply List.map_congr_left
  intro taskKey hdependency
  obtain ⟨status, -, hstatus⟩ := hupstream.status hdependency
  rw [hstatus, statusIn_append hstatus]

/-- What is handed over is what was found for a dependency. -/
theorem mem_handedOver {taskKey : Text} {value : PyValue} :
    (taskKey, value) ∈ handedOver entry outputs ↔
      taskKey ∈ entry.dependencies ∧ outputs.find? taskKey = some (taskKey, value) := by
  unfold handedOver
  rw [List.mem_filterMap]
  constructor
  · rintro ⟨dependency, hdependency, hfound⟩
    obtain rfl : taskKey = dependency := Table.key_of_find? hfound
    exact ⟨hdependency, hfound⟩
  · rintro ⟨hdependency, hfound⟩
    exact ⟨taskKey, hdependency, hfound⟩

theorem handedOver_sublist (entry : TaskPlanEntry) (outputs : Outputs) :
    ((handedOver entry outputs).map Prod.fst).Sublist entry.dependencies := by
  unfold handedOver
  induction entry.dependencies with
  | nil => exact .slnil
  | cons dependency rest ih =>
      rw [List.filterMap_cons]
      cases hfound : outputs.find? dependency with
      | none => exact ih.cons _
      | some found =>
          have hkey : found.1 = dependency := Table.key_of_find? hfound
          rw [List.map_cons, hkey]
          exact ih.cons_cons _

/-- The executor may be called for a task whose trigger rule accepts its dependencies. -/
theorem Stage.admits (hstage : course.Stage before entry after done todo outputs earlier)
    (hvalid : course.Valid) (hallowed : course.Ruled done entry true)
    (hkey : task.taskRun.taskKey = entry.key)
    (hattempts : task.attempts = prior ++ [attempt]) (hattempt : attempt.status = .running)
    (htried : course.Tried entry outputs task.taskRun.taskRunId prior calls)
    (hsound : (⟨some run, done ++ task :: todo, earlier ++ calls⟩ :
      RunRecord).Sound course.runId) (correlation : CorrelationContext)
    (deadlineAt : Option Instant) :
    course.Admits ⟨some run, done ++ task :: todo, earlier ++ calls⟩
      (executionRequest entry course.runId correlation outputs task.taskRun attempt
        deadlineAt) := by
  have haround := hstage.around
  have hkeys := course.plan.distinct
  rw [← hstage.keys hkey] at hkeys
  rw [List.map_append, List.nodup_append] at hkeys
  have hids := hsound.distinct
  rw [List.map_append, List.nodup_append] at hids
  have hbefore : (before.map TaskPlanEntry.key).Nodup := by
    rw [← hstage.walked.keys]
    exact hkeys.1
  constructor
  · intro hfirst
    obtain ⟨upstream, hupstream, hrule⟩ := hallowed hfirst
    refine ⟨entry, haround.mem, rfl, haround.computed, ⟨upstream, hupstream.append _, ?_,
      hrule⟩, fun taskKey value => ?_, ?_, handedOver_sublist entry outputs⟩
    · intro status hstatus
      obtain ⟨other, hother, -, rfl⟩ := hupstream.mem hstatus
      exact hstage.walked.terminal other hother
    · change (taskKey, value) ∈ handedOver entry outputs ↔ _
      rw [mem_handedOver]
      apply and_congr_right
      intro hdependency
      obtain ⟨status, -, hstatus⟩ := hupstream.status hdependency
      obtain ⟨other, hother, rfl, -⟩ := statusIn_eq_some hstatus
      have hmem : other.taskRun.taskKey ∈ before.map TaskPlanEntry.key := by
        rw [← hstage.walked.keys]
        exact List.mem_map_of_mem hother
      rw [hstage.walked.output_iff hvalid.classified (some run) hbefore hids.1 _ hmem]
      refine (outputIn_append ?_ ?_).symm
      · intro later hlater heq
        exact hkeys.2.2 _ (List.mem_map_of_mem hother) _ (List.mem_map_of_mem hlater) heq.symm
      · intro call hcall behind hbehind heq
        obtain ⟨made, -, hmade⟩ := exists_of_forall₂_right htried.called hcall
        exact hsound.others.1 behind hbehind (heq.symm.trans hmade.taskRunId)
    · intro taskKey hdependency hended
      obtain ⟨status, -, hstatus⟩ := hupstream.status hdependency
      rw [statusIn_append hstatus, ← hstatus] at hended
      have hended' : ∃ other ∈ done, other.taskRun.taskKey = taskKey ∧
          (other.taskRun.status = .succeeded ∨ other.taskRun.status = .reused) := by
        rcases hended with hthis | hthis
        · obtain ⟨other, hother, hotherKey, heq⟩ := statusIn_eq_some hthis
          exact ⟨other, hother, hotherKey, Or.inl heq⟩
        · obtain ⟨other, hother, hotherKey, heq⟩ := statusIn_eq_some hthis
          exact ⟨other, hother, hotherKey, Or.inr heq⟩
      obtain ⟨other, hother, rfl, heq⟩ := hended'
      obtain ⟨value, hvalue⟩ := hstage.walked.outputs_complete hvalid.classified other hother heq
      exact ⟨value, mem_handedOver.mpr ⟨hdependency, hvalue⟩⟩
  · refine ⟨attempt, ?_, hattempt, rfl⟩
    exact launched_split haround.behind haround.ahead
      (hattempts ▸ htried.launched_next attempt)

end Readiness

section AttemptLoop

/-- A moment at which every attempt of the task has its call. -/
theorem Around.bad_of_launched (haround : course.Around entry done todo earlier)
    (hlaunched : Launched task.attempts [] calls) {error : PyError} (hharmless : Harmless error)
    (hcause : course.Cause ⟨some run, done ++ task :: todo, earlier ++ calls⟩) :
    course.Bad error ⟨some run, done ++ task :: todo, earlier ++ calls⟩ :=
  haround.bad hlaunched (by simp) (inOrder_of_harmless hharmless) hcause

theorem ensures_rememberActiveRequest {record : RunRecord} (request : TaskExecutionRequest) :
    course.scene.Ensures (rememberActiveRequest request) record
      (Ends (fun _ last => last = record) course.Bad) :=
  ensures_workers (fun _ => rfl) (fun _ => rfl) fun _ => rfl

theorem ensures_forgetActiveRequest {record : RunRecord} (attemptId : TaskAttemptId) :
    course.scene.Ensures (forgetActiveRequest attemptId) record
      (Ends (fun _ last => last = record) course.Bad) :=
  ensures_workers (fun _ => rfl) (fun _ => rfl) fun _ => rfl

/-- An executor is called for a new attempt of the task. -/
theorem ensures_attemptRound (hvalid : course.Valid)
    (hstage : course.Stage before entry after done todo outputs earlier)
    (hallowed : course.Ruled done entry true) (hkey : task.taskRun.taskKey = entry.key)
    (hstatus : task.taskRun.status = .running)
    (hstarted : task.taskRun.startedAt.isSome = true) (hnone : task.checkpoint = none)
    (htried : course.Tried entry outputs task.taskRun.taskRunId task.attempts calls)
    (hrun : run.status = .running) {progress : PlanProgress} (hprogress : progress.run = run)
    (houtputs : progress.outputs = outputs) {rounds : Nat}
    (hrounds : task.attempts.length + (rounds + 1) = entry.retryPolicy.maxAttempts) :
    course.scene.Ensures
      (attemptRound course.runtime entry course.runId correlation progress
        task.taskRun)
      ⟨some run, done ++ task :: todo, earlier ++ calls⟩
      (Ends (course.RoundEnds before entry done todo outputs earlier run rounds)
        course.Bad) := by
  have haround := hstage.around
  unfold attemptRound
  refine (ensures_startAttempt haround hkey hstatus rfl htried).bind ?_
    fun _ _ herror => herror
  rintro attempt last ⟨launched, hrow, hcheckpoint, hattempts, hattempt, hnumber, hkept, rfl⟩
  rw [← hrow] at htried hkey hstatus hstarted ⊢
  rw [← hcheckpoint] at hnone
  have hquiet : Unraised (earlier ++ calls) := hstage.walked.unraised.append htried.unraised
  refine (ensures_executionDeadline haround.mem hquiet.quiet).bind ?_ fun _ _ herror => herror
  rintro deadlineAt last rfl
  rw [houtputs]
  simp only
  generalize hrequest : executionRequest entry course.runId correlation outputs
    launched.taskRun attempt deadlineAt = request
  refine (ensures_rememberActiveRequest request).bind ?_ fun _ _ herror => herror
  rintro _ last rfl
  apply ensures_of_sound
  intro hsound
  have hadmits := hstage.admits hvalid hallowed hkey hattempts hattempt htried hsound
    correlation deadlineAt
  rw [hrequest] at hadmits
  have hrunId : request.context.workflowRunId = course.runId := by
    rw [← hrequest]
    rfl
  have hresolves : ∃ executor,
      course.runtime.executors.resolve request.executorKey = .ok executor := by
    rw [← hrequest]
    exact hvalid.resolves entry haround.mem
  refine (ensures_executeRequest hrunId hresolves hadmits).bind ?_
    fun _ _ herror => herror.elim
  rintro executed last ⟨answer, hanswered, rfl, hyields⟩
  have hcalled : course.Called entry outputs launched.taskRun.taskRunId attempt
      (request, answer) := by
    constructor
    · rw [← hrequest]
      rfl
    · rw [← hrequest]
      rfl
    · rw [← hrequest]
      rfl
    · rw [← hrequest]
      rfl
    · exact hanswered
  have hlaunched : Launched launched.attempts [] (calls ++ [(request, answer)]) := by
    rw [hattempts]
    exact htried.launched_called hcalled (by simp [hattempt])
  simp only [List.append_assoc]
  refine (ensures_forgetActiveRequest attempt.attemptId).bind ?_ fun _ _ herror => herror
  rintro _ last rfl
  apply ensures_ofExcept_bind
  · rintro result rfl
    obtain ⟨houtput, hcategory, hraised⟩ := hyields
    have hmem : launched ∈ done ++ launched :: todo := by simp
    have hmemAttempt : attempt ∈ launched.attempts := by simp [hattempts]
    have hreadAttempt : course.scene.Ensures (onStore (Memory.getTaskAttempt attempt.attemptId))
        ⟨some run, done ++ launched :: todo, earlier ++ (calls ++ [(request, answer)])⟩
        (Ends (fun current last => current = attempt ∧ last =
          ⟨some run, done ++ launched :: todo, earlier ++ (calls ++ [(request, answer)])⟩)
          course.Bad) := ensures_getTaskAttempt hmem hmemAttempt ⟨rfl, rfl⟩
    refine hreadAttempt.bind ?_ fun _ _ herror => herror
    rintro current last ⟨rfl, rfl⟩
    have hreadTask : course.scene.Ensures
        (onStore (Memory.getTaskRun launched.taskRun.taskRunId))
        ⟨some run, done ++ launched :: todo, earlier ++ (calls ++ [(request, answer)])⟩
        (Ends (fun current last => current = launched.taskRun ∧ last =
          ⟨some run, done ++ launched :: todo, earlier ++ (calls ++ [(request, answer)])⟩)
          course.Bad) := ensures_getTaskRun hmem ⟨rfl, rfl⟩
    refine hreadTask.bind ?_ fun _ _ herror => herror
    rintro taskRun last ⟨rfl, rfl⟩
    have hreadRun : course.scene.Ensures (onStore (Memory.getWorkflowRun course.runId))
        ⟨some run, done ++ launched :: todo, earlier ++ (calls ++ [(request, answer)])⟩
        (Ends (fun current last => current = run ∧ last =
          ⟨some run, done ++ launched :: todo, earlier ++ (calls ++ [(request, answer)])⟩)
          course.Bad) := ensures_getWorkflowRun rfl ⟨rfl, rfl⟩
    refine hreadRun.bind ?_ fun _ _ herror => herror
    rintro current' last ⟨rfl, rfl⟩
    generalize hnoted : PlanProgress.note _ _ = noted
    have hnotedRun : noted.run = current' := by
      rw [← hnoted]
      rfl
    have hnotedOutputs : noted.outputs = outputs := by
      rw [← hnoted]
      rfl
    unfold persistExternalRunRefs
    refine (ensures_appendExternalRunRefs hmem hmemAttempt (fun error hharmless hfree => ?_)
      _).bind ?_ fun _ _ herror => herror
    · exact haround.bad_of_launched hlaunched hharmless
        (.infirm fun hfirm => hfree (hkept hfirm.orderly))
    rintro _ last rfl
    rw [if_neg (by simp [hattempt])]
    cases hfailure : result.failure with
    | none =>
        have hproduced : outputOf answer = some result.output := by
          rw [houtput]
          simp [outputOf, hfailure]
        simp only
        refine (ensures_concludeSucceeded hstage hallowed hkey hstatus hnone hattempts
          hattempt htried hcalled hproduced hrun hnotedOutputs).bind ?_
          fun _ _ herror => herror
        intro taskEnd last hends
        exact ensures_pure (.ended hends)
    | some failure =>
        have hproduced : outputOf answer = none := by
          rw [houtput]
          simp [outputOf, hfailure]
        exact ensures_concludeFailed hstage hkey hstatus hstarted hnone hattempts hattempt
          hnumber htried hcalled hproduced
          (fun typeName message hanswer => by
            obtain ⟨evidence, hevidence, hreported⟩ := hraised typeName message hanswer
            rw [hfailure] at hevidence
            cases hevidence
            exact hreported)
          (fun hsmooth => hcategory hsmooth failure hfailure) hrun hnotedRun hnotedOutputs
          hrounds
  · rintro error rfl
    obtain ⟨horder, hrough, hloud⟩ := hyields
    refine haround.bad hlaunched (by simp) horder (.rough hrough ?_)
    intro made hmade
    rw [← List.append_assoc] at hmade
    exact (List.mem_append.mp hmade).elim (hquiet.quiet made) (hloud made)

/-- The attempt loop ends the task before the rounds run out. -/
theorem ensures_attemptLoop (hvalid : course.Valid)
    (hstage : course.Stage before entry after done todo outputs earlier)
    (hallowed : course.Ruled done entry true) (hrun : run.status = .running)
    (correlation : CorrelationContext) (rounds : Nat)
    {task : TaskRecord} {calls : Calls} {progress : PlanProgress}
    (hkey : task.taskRun.taskKey = entry.key) (hstatus : task.taskRun.status = .running)
    (hstarted : task.taskRun.startedAt.isSome = true) (hnone : task.checkpoint = none)
    (htried : course.Tried entry outputs task.taskRun.taskRunId task.attempts calls)
    (hprogress : progress.run = run) (houtputs : progress.outputs = outputs)
    (hrounds : task.attempts.length + rounds = entry.retryPolicy.maxAttempts) :
    course.scene.Ensures
      (attemptLoop course.runtime entry course.runId correlation rounds progress
        task.taskRun)
      ⟨some run, done ++ task :: todo, earlier ++ calls⟩
      (Ends (course.TaskEnds before entry done todo outputs earlier run) course.Bad) := by
  induction rounds generalizing task calls progress with
  | zero =>
      have hbounded := htried.bounded
      omega
  | succ rounds ih =>
      unfold attemptLoop
      refine (ensures_attemptRound hvalid hstage hallowed hkey hstatus hstarted hnone htried
        hrun hprogress houtputs hrounds).bind ?_ fun _ _ herror => herror
      intro attemptEnd last hends
      cases hends with
      | ended hends => exact ensures_pure hends
      | retry hrun' houtputs' hkey' hstatus' hstarted' hnone' htried' hrounds' =>
          exact ih hkey' hstatus' hstarted' hnone' htried' hrun' houtputs' hrounds'

end AttemptLoop

section Entries

/-- How one task of the plan ends. -/
inductive EntryEnds (course : Course) (before : List TaskPlanEntry) (entry : TaskPlanEntry)
    (done todo : List TaskRecord) (outputs : Outputs) (earlier : Calls) (run : WorkflowRun) :
    EntryEnd → RunRecord → Prop
  | next {progress : PlanProgress} {task : TaskRecord} {calls : Calls}
      (hrun : progress.run = run)
      (hwalked : course.Walked (before ++ [entry]) (done ++ [task]) progress.outputs
        (earlier ++ calls)) :
      EntryEnds course before entry done todo outputs earlier run (.next progress)
        ⟨some run, done ++ task :: todo, earlier ++ calls⟩
  | failed {progress : PlanProgress} {failure : FailureEvidence} {last : RunRecord}
      (hends : course.TaskEnds before entry done todo outputs earlier run
        (.failed progress failure) last) :
      EntryEnds course before entry done todo outputs earlier run (.failed progress failure)
        last
  | returned {result : WorkflowResult} {last : RunRecord}
      (hends : course.TaskEnds before entry done todo outputs earlier run (.returned result)
        last) :
      EntryEnds course before entry done todo outputs earlier run (.returned result) last

/-- The dependencies of the next task are behind. -/
theorem Stage.behind (hstage : course.Stage before entry after done todo outputs earlier)
    (hfirst : course.First) {taskKey : Text} (hdependency : taskKey ∈ entry.dependencies) :
    ∃ status, statusIn done taskKey = some status := by
  unfold First at hfirst
  rw [hstage.plan] at hfirst
  have hmem := hfirst.dependency taskKey hdependency
  rw [List.nil_append, ← hstage.walked.keys] at hmem
  obtain ⟨task, htask, hkey⟩ := List.mem_map.mp hmem
  have hsome : (done.find? fun task => task.taskRun.taskKey = taskKey).isSome = true := by
    rw [List.find?_isSome]
    exact ⟨task, htask, by simpa using hkey⟩
  obtain ⟨found, hfound⟩ := Option.isSome_iff_exists.mp hsome
  exact ⟨found.taskRun.status, by simp [statusIn, hfound]⟩

/-- The trigger rule of the next task is asked about tasks behind, which have ended. -/
theorem Stage.upstream (hstage : course.Stage before entry after done todo outputs earlier)
    (hfirst : course.First) {others : List TaskRecord} {upstream : List TaskRunStatus}
    (hupstream : Upstream (done ++ others) entry upstream) :
    Upstream done entry upstream ∧ upstream.all TaskRunStatus.isTerminal = true := by
  have hbehind : Upstream done entry upstream := by
    unfold Upstream
    rw [← hupstream]
    apply List.map_congr_left
    intro taskKey hdependency
    obtain ⟨status, hstatus⟩ := hstage.behind hfirst hdependency
    rw [hstatus, statusIn_append hstatus]
  refine ⟨hbehind, ?_⟩
  rw [List.all_eq_true]
  intro status hstatus
  obtain ⟨other, hother, -, rfl⟩ := hbehind.mem hstatus
  exact hstage.walked.terminal other hother

/-- The statuses that are read back are those of the record. -/
theorem status_persisted {tasks : List TaskRecord} {taskRuns : List TaskRun}
    (hperm : taskRuns.Perm (tasks.map TaskRecord.taskRun))
    (hkeys : (tasks.map fun task => task.taskRun.taskKey).Nodup) (taskKey : Text) :
    ((Table.ofList taskRuns : TaskRunsByKey).find? taskKey).map TaskRun.status =
      statusIn tasks taskKey := by
  have hnodup : (taskRuns.map TaskRun.taskKey).Nodup := by
    rw [(hperm.map TaskRun.taskKey).nodup_iff, List.map_map]
    exact hkeys
  cases hfound : tasks.find? fun task => task.taskRun.taskKey = taskKey with
  | none =>
      have hnone : (Table.ofList taskRuns : TaskRunsByKey).find? taskKey = none := by
        rw [Table.find?_eq_none_iff, Table.rows_ofList hnodup]
        intro taskRun hmem
        obtain ⟨task, htask, rfl⟩ := List.mem_map.mp (hperm.mem_iff.mp hmem)
        simpa using List.find?_eq_none.mp hfound task htask
      simp [statusIn, hfound, hnone]
  | some task =>
      have hkey : task.taskRun.taskKey = taskKey := by simpa using List.find?_some hfound
      have hsome : (Table.ofList taskRuns : TaskRunsByKey).find? taskKey =
          some task.taskRun := by
        rw [Table.find?_ofList hnodup]
        exact ⟨hperm.mem_iff.mpr (List.mem_map_of_mem (List.mem_of_find?_eq_some hfound)),
          hkey⟩
      simp [statusIn, hfound, hsome]

/-- The row that is read back for a task. -/
theorem find?_persisted {tasks : List TaskRecord} {taskRuns : List TaskRun}
    (hperm : taskRuns.Perm (tasks.map TaskRecord.taskRun))
    (hkeys : (tasks.map fun task => task.taskRun.taskKey).Nodup) (htask : task ∈ tasks) :
    (Table.ofList taskRuns : TaskRunsByKey).find? task.taskRun.taskKey =
      some task.taskRun := by
  have hnodup : (taskRuns.map TaskRun.taskKey).Nodup := by
    rw [(hperm.map TaskRun.taskKey).nodup_iff, List.map_map]
    exact hkeys
  rw [Table.find?_ofList hnodup]
  exact ⟨hperm.mem_iff.mpr (List.mem_map_of_mem htask), rfl⟩

/-- A task that was never attempted takes a transition. -/
theorem ensures_changeIdle (haround : course.Around entry done todo earlier)
    (hkey : task.taskRun.taskKey = entry.key) (hattempts : task.attempts = [])
    {current : Option WorkflowRun} {target : TaskRunStatus} {skipReason : Option SkipReason}
    {failure : Option FailureEvidence} (hskip : skipReason.isSome = true ↔ target = .skipped)
    (hblock : target ≠ .blocked) (hallowed : target ∈ taskRunTransitions task.taskRun.status) :
    course.scene.Ensures (transitionTask task.taskRun target skipReason failure)
      ⟨current, done ++ task :: todo, earlier⟩
      (Ends (fun changed last => ∃ next, next.taskRun = changed ∧ next.attempts = [] ∧
        next.checkpoint = task.checkpoint ∧
        task.taskRun.Became changed target skipReason failure ∧
        last = ⟨current, done ++ next :: todo, earlier⟩) course.Bad) := by
  have hlaunched : Launched task.attempts [] [] := by
    rw [hattempts]
    exact launched_nil
  have hdisciplined : Disciplined entry.retryPolicy task.attempts := by
    rw [hattempts]
    exact disciplined_nil _
  have hchanges : course.scene.Ensures
      (transitionTask task.taskRun target skipReason failure)
      ⟨current, done ++ task :: todo, earlier ++ []⟩ _ :=
    ensures_changeTask haround hkey hdisciplined hlaunched hskip hblock hallowed
  simp only [List.append_nil, hattempts] at hchanges
  exact hchanges

/-- The next task is skipped, or its attempts are made. -/
theorem ensures_executeEntry (hvalid : course.Valid)
    (hstage : course.Stage before entry after done todo outputs earlier)
    (hwaiting : course.Waiting entry task) (hrun : run.status = .running)
    {progress : PlanProgress} (hprogress : progress.run = run)
    (houtputs : progress.outputs = outputs) :
    course.scene.Ensures
      (executeEntry course.runtime course.runId correlation entry progress)
      ⟨some run, done ++ task :: todo, earlier⟩
      (Ends (course.EntryEnds before entry done todo outputs earlier run) course.Bad) := by
  have haround := hstage.around
  obtain ⟨hpending, hnone⟩ := hwaiting.pending hstage.computed
  have hkeys : ((done ++ task :: todo).map fun task => task.taskRun.taskKey).Nodup := by
    rw [hstage.keys hwaiting.key]
    exact course.plan.distinct
  have hcalled : AllCalled ⟨some run, done ++ task :: todo, earlier⟩ := by
    have hlaunched : Launched task.attempts [] [] := by
      rw [hwaiting.attempts]
      exact launched_nil
    have hall := launched_split haround.behind haround.ahead hlaunched
    rw [List.append_nil] at hall
    exact hall.allCalled (by simp)
  unfold executeEntry
  have hturn : course.scene.Ensures (Program.ask (Service.turn course.runId))
      ⟨some run, done ++ task :: todo, earlier⟩
      (Ends (fun _ last => last = ⟨some run, done ++ task :: todo, earlier⟩) course.Bad) :=
    ensures_ask (by simp) fun _ _ _ => rfl
  refine hturn.bind ?_ fun _ _ herror => herror
  rintro _ last rfl
  have hlisted : course.scene.Ensures (query fun store => store.listTaskRuns course.runId)
      ⟨some run, done ++ task :: todo, earlier⟩
      (Ends (fun taskRuns last => last = ⟨some run, done ++ task :: todo, earlier⟩ ∧
        taskRuns.Perm ((done ++ task :: todo).map TaskRecord.taskRun)) course.Bad) :=
    ensures_listTaskRuns fun _ hperm => ⟨rfl, hperm⟩
  refine hlisted.bind ?_ fun _ _ herror => herror
  rintro taskRuns last ⟨rfl, hperm⟩
  have hfound := find?_persisted hperm hkeys (List.mem_append_right done List.mem_cons_self)
  rw [hwaiting.key] at hfound
  have hstatuses : (fun taskKey =>
      ((Table.ofList taskRuns : TaskRunsByKey).find? taskKey).map TaskRun.status) =
        statusIn (done ++ task :: todo) := by
    funext taskKey
    exact status_persisted hperm hkeys taskKey
  simp only [hfound]
  rw [hstatuses]
  apply ensures_ofExcept_bind
  · intro readiness hreadiness
    obtain ⟨upstream, hupstream, rfl⟩ := of_evaluateReadiness hreadiness
    have hbehind := fun hfirst => hstage.upstream hfirst hupstream
    unfold decideReadiness
    by_cases hterminal : upstream.all TaskRunStatus.isTerminal = true
    · rw [if_neg (not_not.mpr hterminal)]
      by_cases hrule : allowedBy entry.triggerRule upstream = true
      · have hready : TaskRunStatus.ready ∈ taskRunTransitions task.taskRun.status := by
          rw [hpending]
          decide
        rw [if_pos hrule]
        simp only [not_true_eq_false, if_false]
        refine (ensures_changeIdle haround hwaiting.key hwaiting.attempts (by simp) (by simp)
          hready).bind ?_ fun _ _ herror => herror
        rintro _ last ⟨ready, rfl, hreadyAttempts, hreadyCheckpoint, hbecame, rfl⟩
        have hreadyKey : ready.taskRun.taskKey = entry.key :=
          hbecame.identity.2.2.1.symm.trans hwaiting.key
        have hruns : TaskRunStatus.running ∈ taskRunTransitions ready.taskRun.status := by
          rw [hbecame.status]
          decide
        refine (ensures_changeIdle haround hreadyKey hreadyAttempts (by simp) (by simp)
          hruns).bind ?_ fun _ _ herror => herror
        rintro _ last ⟨started, rfl, hattempts, hcheckpoint, hstarted, rfl⟩
        have hkey : started.taskRun.taskKey = entry.key :=
          hstarted.identity.2.2.1.symm.trans hreadyKey
        have htried : course.Tried entry outputs started.taskRun.taskRunId started.attempts
            [] := by
          rw [hattempts]
          exact ⟨.nil, by simp, unraised_nil, by simp, entry.retryPolicy.positive⟩
        have hloop := ensures_attemptLoop hvalid hstage
          (fun hfirst => ⟨upstream, (hbehind hfirst).1, hrule⟩) hrun
          correlation entry.retryPolicy.maxAttempts hkey hstarted.status (hstarted.started rfl)
          (hcheckpoint.trans (hreadyCheckpoint.trans hnone)) htried hprogress houtputs
          (by simp [hattempts])
        rw [List.append_nil] at hloop
        refine hloop.bind ?_ fun _ _ herror => herror
        intro taskEnd last hends
        cases taskEnd with
        | succeeded progress =>
            cases hends with
            | succeeded hrun' hwalked => exact ensures_pure (.next hrun' hwalked)
        | failed progress failure => exact ensures_pure (.failed hends)
        | returned result => exact ensures_pure (.returned hends)
      · have hskips : TaskRunStatus.skipped ∈ taskRunTransitions task.taskRun.status := by
          rw [hpending]
          decide
        have hruled : course.Ruled done entry false :=
          fun hfirst => ⟨upstream, (hbehind hfirst).1, by simpa using hrule⟩
        rw [if_neg hrule]
        simp only
        refine (ensures_changeIdle haround hwaiting.key hwaiting.attempts (by simp) (by simp)
          hskips).bind ?_ fun _ _ herror => herror
        rintro _ last ⟨skipped, rfl, hattempts, hcheckpoint, hbecame, rfl⟩
        have hkey : skipped.taskRun.taskKey = entry.key :=
          hbecame.identity.2.2.1.symm.trans hwaiting.key
        have hnext : ∀ noted : PlanProgress, noted.run = run → noted.outputs = outputs →
            course.EntryEnds before entry done todo outputs earlier run (.next noted)
              ⟨some run, done ++ skipped :: todo, earlier⟩ := by
          intro noted hnoted hnotedOutputs
          have hwalked : course.Walked (before ++ [entry]) (done ++ [skipped]) noted.outputs
              (earlier ++ []) := by
            rw [List.append_nil, hnotedOutputs]
            exact .skipped hstage.walked hstage.computed hruled hkey hbecame.status
              hbecame.skipReason hattempts (hcheckpoint.trans hnone)
          simpa using EntryEnds.next hnoted hwalked
        exact ensures_pure (hnext _ hprogress houtputs)
    · -- Only a plan that does not have every task after its dependencies comes here.
      rw [if_pos hterminal]
      simp only [Bool.false_eq_true, not_false_eq_true, if_true]
      exact ensures_raise ⟨fun hfirst => absurd (hbehind hfirst).2 hterminal,
        fun _ => hcalled, .rough (fun hsmooth => hterminal (hbehind hsmooth.first).2)
          hstage.walked.unraised.quiet⟩
  · intro error herror
    obtain ⟨taskKey, hdependency, habsent, rfl⟩ := evaluateReadiness_eq_error herror
    refine bad_of_called hcalled (by simp [Harmless, PyError.errorClass])
      (.rough (fun hsmooth => ?_) hstage.walked.unraised.quiet)
    obtain ⟨status, hstatus⟩ := hstage.behind hsmooth.first hdependency
    rw [statusIn_append hstatus] at habsent
    cases habsent

end Entries

end Course

end PyWorkflowKit.Runtime
