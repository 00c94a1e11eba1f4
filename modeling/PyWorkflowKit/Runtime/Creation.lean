import PyWorkflowKit.Runtime.Classification
import PyWorkflowKit.Runtime.Conclusions

/-!
# The records of a new run

The task runs that are created before the plan of a run is executed, and what running
a plan and resuming an earlier run come to.
-/

namespace PyWorkflowKit.Runtime

open PyWorkflowKit.Core PyWorkflowKit.Domain PyWorkflowKit.States
open PyWorkflowKit.Persistence PyWorkflowKit.Executors PyWorkflowKit.Planning
open PyWorkflowKit.Policies Program Scene

namespace Course

variable {course : Course} {entry : TaskPlanEntry} {record : RunRecord}
  {tasks others : List TaskRecord} {run : WorkflowRun} {createdAt : Instant}

section Tasks

/-- Tasks of the plan before the first attempt of any. -/
structure Unstarted (course : Course) (tasks : List TaskRecord) : Prop where
  planned : ∀ task ∈ tasks, ∃ entry ∈ course.plan.tasks, task.taskRun.taskKey = entry.key
  unattempted : ∀ task ∈ tasks, task.attempts = []

theorem unstarted_of_waiting {entries : List TaskPlanEntry}
    (hwaiting : List.Forall₂ course.Waiting entries tasks)
    (hentries : ∀ entry ∈ entries, entry ∈ course.plan.tasks) : course.Unstarted tasks := by
  constructor
  · intro task htask
    obtain ⟨entry, hentry, hthis⟩ := exists_of_forall₂_right hwaiting htask
    exact ⟨entry, hentries entry hentry, hthis.key⟩
  · intro task htask
    obtain ⟨entry, -, hthis⟩ := exists_of_forall₂_right hwaiting htask
    exact hthis.attempts

theorem Unstarted.append (hfirst : course.Unstarted tasks) (hsecond : course.Unstarted others) :
    course.Unstarted (tasks ++ others) := by
  constructor
  · intro task htask
    exact (List.mem_append.mp htask).elim (hfirst.planned task) (hsecond.planned task)
  · intro task htask
    exact (List.mem_append.mp htask).elim (hfirst.unattempted task) (hsecond.unattempted task)

theorem Unstarted.called (hunstarted : course.Unstarted tasks) {current : Option WorkflowRun}
    {executions : Calls} : AllCalled ⟨current, tasks, executions⟩ := by
  intro attempt hattempt
  rw [attemptsIn_eq_nil hunstarted.unattempted] at hattempt
  cases hattempt

/-- A write to a run that has not started. -/
theorem Unstarted.keeps (hbefore : course.Unstarted tasks) (hafter : course.Unstarted others)
    (hpending : run.status = .pending) {current : Option WorkflowRun} :
    course.Keeps ⟨current, tasks, []⟩ ⟨some run, others, []⟩ := by
  refine ⟨⟨fun task htask => ?_, [], ?_, Nat.zero_le _, by simp⟩, continues_of_attempts ?_⟩
  · obtain ⟨entry, hentry, hkey⟩ := hafter.planned task htask
    have hattempts := hafter.unattempted task htask
    refine ⟨⟨entry, hentry, hkey, hattempts ▸ disciplined_nil _⟩, fun _ => hattempts, ?_⟩
    intro _ hstarted
    simp [hpending] at hstarted
  · rw [attemptsIn_eq_nil hafter.unattempted]
    exact launched_nil
  · rw [attemptsIn_eq_nil hafter.unattempted, attemptsIn_eq_nil hbefore.unattempted]

/-- A task run is created for an entry of the plan. -/
theorem ensures_newTask (hentry : entry ∈ course.plan.tasks)
    (hunstarted : course.Unstarted tasks) (hpending : run.status = .pending) :
    course.scene.Ensures (createTask course.runId createdAt entry) ⟨some run, tasks, []⟩
      (Ends (fun taskRun last => ∃ task, task.taskRun = taskRun ∧
        task.taskRun.taskKey = entry.key ∧ task.taskRun.status = .pending ∧
        task.attempts = [] ∧ task.checkpoint = none ∧
        course.Unstarted (tasks ++ [task]) ∧ last = ⟨some run, tasks ++ [task], []⟩)
        course.Bad) := by
  refine ensures_createTask (fun taskRunId => ?_) fun error hharmless hcause =>
    bad_of_called hunstarted.called hharmless (.infirm fun hfirm => hcause hfirm.orderly)
  intro taskRun _
  have hnew : course.Unstarted [⟨taskRun, [], none⟩] := by
    constructor
    · intro task htask
      rw [List.mem_singleton.mp htask]
      exact ⟨entry, hentry, rfl⟩
    · intro task htask
      rw [List.mem_singleton.mp htask]
  exact ⟨hunstarted.keeps (hunstarted.append hnew) hpending,
    ⟨taskRun, [], none⟩, rfl, rfl, rfl, rfl, rfl, hunstarted.append hnew, rfl⟩

theorem unstarted_of_same {tasks : List TaskRecord} {task next : TaskRecord}
    (hunstarted : course.Unstarted (tasks ++ [task]))
    (hkey : next.taskRun.taskKey = task.taskRun.taskKey)
    (hattempts : next.attempts = task.attempts) : course.Unstarted (tasks ++ [next]) := by
  constructor
  · intro other hother
    rcases List.mem_append.mp hother with hmem | hmem
    · exact hunstarted.planned other (List.mem_append_left _ hmem)
    · rw [List.mem_singleton.mp hmem, hkey]
      exact hunstarted.planned task (by simp)
  · intro other hother
    rcases List.mem_append.mp hother with hmem | hmem
    · exact hunstarted.unattempted other (List.mem_append_left _ hmem)
    · rw [List.mem_singleton.mp hmem, hattempts]
      exact hunstarted.unattempted task (by simp)

/-- A task run is created with the checkpoint that is copied for it. -/
theorem ensures_reuseTask (hclass : course.classification.Preloaded)
    (hentry : entry ∈ course.plan.tasks)
    (hreused : entry.key ∈ course.classification.reusedKeys)
    (hunstarted : course.Unstarted tasks) (hpending : run.status = .pending)
    (hrunId : run.runId = course.runId) (originalRunId : WorkflowRunId) :
    course.scene.Ensures (reuseTask run originalRunId createdAt course.classification entry)
      ⟨some run, tasks, []⟩
      (Ends (fun _ last => ∃ task, course.Waiting entry task ∧
        last = ⟨some run, tasks ++ [task], []⟩) course.Bad) := by
  unfold reuseTask
  rw [hrunId]
  refine (ensures_newTask hentry hunstarted hpending).bind ?_ fun _ _ herror => herror
  rintro _ last ⟨task, rfl, hkey, hstatus, hattempts, hnone, hcreated, rfl⟩
  have hallowed : TaskRunStatus.reused ∈ taskRunTransitions task.taskRun.status := by
    rw [hstatus]
    decide
  have hchanged : course.scene.Ensures (transitionTask task.taskRun .reused none none)
      ⟨some run, tasks ++ [task], []⟩
      (Ends (fun changed last => ∃ next, next.taskRun = changed ∧
        next.taskRun.taskKey = entry.key ∧ next.taskRun.status = .reused ∧
        next.attempts = [] ∧ next.checkpoint = none ∧
        course.Unstarted (tasks ++ [next]) ∧ last = ⟨some run, tasks ++ [next], []⟩)
        course.Bad) := by
    refine ensures_transitionTask (by simp) (by simp) (fun at_ changed hchanged _ => ?_)
      fun error hharmless hcause =>
        bad_of_called hcreated.called hharmless (.infirm fun hfirm => ?_)
    · have hbecame := TaskRun.became_of_transition hchanged
      have hnext : course.Unstarted (tasks ++ [{ task with taskRun := changed }]) :=
        unstarted_of_same hcreated hbecame.identity.2.2.1.symm rfl
      exact ⟨hcreated.keeps hnext hpending, { task with taskRun := changed }, rfl,
        hbecame.identity.2.2.1.symm.trans hkey, hbecame.status, hattempts, hnone, hnext, rfl⟩
    · rcases hcause with hnaive | hrejected
      · exact hnaive hfirm.orderly
      · exact hrejected hallowed
  refine hchanged.bind ?_ fun _ _ herror => herror
  rintro _ last ⟨reused, rfl, hreusedKey, hreusedStatus, hreusedAttempts, hreusedNone,
    hunstartedReused, rfl⟩
  obtain ⟨⟨key, cached⟩, hcached⟩ := Option.ne_none_iff_exists'.mp
    ((hclass.checkpoint entry.key).mp hreused)
  obtain rfl : key = entry.key := Table.key_of_find? hcached
  rw [hcached]
  simp only
  obtain ⟨copied, hcopied, howner, houtput, hdigest⟩ :=
    cached.exists_copy reused.taskRun.taskRunId createdAt
  rw [hcopied]
  refine ensures_ofExcept_bind (fun value hvalue => ?_) fun _ herror => by cases herror
  obtain rfl := Except.ok.inj hvalue
  have hunstartedCopied :
      course.Unstarted (tasks ++ [{ reused with checkpoint := some copied }]) :=
    unstarted_of_same hunstartedReused rfl rfl
  have hstored : course.scene.Ensures (onStore (Memory.setTaskOutputCheckpoint copied))
      ⟨some run, tasks ++ [reused], []⟩
      (Ends (fun _ last => last =
        ⟨some run, tasks ++ [{ reused with checkpoint := some copied }], []⟩) course.Bad) :=
    ensures_setTaskOutputCheckpoint howner (Or.inr hreusedStatus) hreusedNone fun _ =>
      ⟨hunstartedReused.keeps hunstartedCopied hpending, rfl⟩
  refine hstored.bind ?_ fun _ _ herror => herror
  rintro _ last rfl
  refine ensures_pure ⟨{ reused with checkpoint := some copied },
    ⟨hreusedKey, hreusedAttempts, fun _ => ⟨hreusedStatus, cached, ?_, copied, rfl, houtput,
      hdigest⟩, fun hcomputed => absurd hreused hcomputed⟩, rfl⟩
  rw [hreusedKey]
  exact hcached

/-- The task run of an entry of a resumed run. -/
theorem ensures_resumeTask (hclass : course.classification.Preloaded)
    (hentry : entry ∈ course.plan.tasks) (hunstarted : course.Unstarted tasks)
    (hpending : run.status = .pending) (hrunId : run.runId = course.runId)
    (originalRunId : WorkflowRunId) :
    course.scene.Ensures (resumeTask run originalRunId createdAt course.classification entry)
      ⟨some run, tasks, []⟩
      (Ends (fun _ last => ∃ task, course.Waiting entry task ∧
        last = ⟨some run, tasks ++ [task], []⟩) course.Bad) := by
  unfold resumeTask
  split
  · next hreused =>
    exact ensures_reuseTask hclass hentry hreused hunstarted hpending hrunId originalRunId
  · next hcomputed =>
    rw [hrunId]
    refine (ensures_newTask hentry hunstarted hpending).bind ?_ fun _ _ herror => herror
    rintro _ last ⟨task, rfl, hkey, hstatus, hattempts, hnone, -, rfl⟩
    exact ensures_pure ⟨task, ⟨hkey, hattempts, fun hreused => absurd hreused hcomputed,
      fun _ => ⟨hstatus, hnone⟩⟩, rfl⟩

end Tasks

/-- How resuming a run may stop. -/
structure Halted (course : Course) (error : PyError) (last : RunRecord) : Prop where
  order : course.First → InOrder error
  called : course.Prompt → AllCalled last

section Launch

theorem inOrder_quoted (reason text : String) :
    InOrder (.runtimeInvariant (reason ++ PyError.quoted text)) := by
  unfold PyError.quoted
  rw [← String.append_assoc, ← String.append_assoc]
  exact inOrder_append (by decide) (by decide)

theorem preflightEntry_inOrder {executors : ExecutorRegistry} {error : PyError}
    (herror : preflightEntry executors entry = .error error) : InOrder error := by
  unfold preflightEntry at herror
  simp only at herror
  cases hresolved : executors.resolve entry.executorRequirement.executorKey with
  | error thrown =>
      rw [hresolved] at herror
      unfold ExecutorRegistry.resolve at hresolved
      split at hresolved
      · cases hresolved
      · cases hresolved
        cases herror
        exact inOrder_of_harmless (by simp [Harmless, PyError.errorClass])
  | ok executor =>
      rw [hresolved] at herror
      simp only [bind, Except.bind] at herror
      split_ifs at herror
      · cases herror
        exact inOrder_append (by decide) (by decide)
      · cases herror
        exact inOrder_append (by decide) (by decide)
      · cases herror
        exact inOrder_quoted _ _

theorem preflight_inOrder {runtime : WorkflowRuntime} {plan : ExecutionPlan} {error : PyError}
    (herror : runtime.preflight plan = .error error) : InOrder error := by
  unfold WorkflowRuntime.preflight at herror
  cases hgather : gather (plan.tasks.map (preflightEntry runtime.executors)) with
  | ok values =>
      rw [hgather] at herror
      cases herror
  | error thrown =>
      rw [hgather] at herror
      cases herror
      obtain ⟨entry, -, heq⟩ := List.mem_map.mp (gather_eq_error hgather)
      exact preflightEntry_inOrder heq

/-- The executors of an accepted plan are known. -/
theorem resolves_of_preflight {runtime : WorkflowRuntime} {plan : ExecutionPlan}
    (haccepted : runtime.preflight plan = .ok ()) (hentry : entry ∈ plan.tasks) :
    ∃ executor, runtime.executors.resolve entry.executorRequirement.executorKey =
      .ok executor := by
  unfold WorkflowRuntime.preflight at haccepted
  cases hgather : gather (plan.tasks.map (preflightEntry runtime.executors)) with
  | error thrown =>
      rw [hgather] at haccepted
      cases haccepted
  | ok values =>
      have hall := forall₂_of_gather hgather
      rw [List.forall₂_map_left_iff] at hall
      obtain ⟨value, -, hthis⟩ := exists_of_forall₂_right hall.flip hentry
      unfold preflightEntry at hthis
      simp only at hthis
      cases hresolved : runtime.executors.resolve entry.executorRequirement.executorKey with
      | ok executor => exact ⟨executor, rfl⟩
      | error thrown =>
          rw [hresolved] at hthis
          cases hthis

/-- The run is started and its plan is executed. -/
theorem ensures_launch (hvalid : course.Valid)
    (hwaiting : List.Forall₂ course.Waiting course.plan.tasks tasks)
    (hpending : run.status = .pending) (hrunId : run.runId = course.runId)
    (correlation : CorrelationContext) (diagnostics : List Diagnostic) :
    course.scene.Ensures
      (do
        let run ← transitionWorkflow run .running none
        executePlanTasks course.runtime run course.plan correlation
          course.classification.initialOutputs course.classification.reusedKeys diagnostics)
      ⟨some run, tasks, []⟩ (Ends course.Concluded course.Bad) := by
  have hbehind := (ahead_of_waiting hwaiting fun _ hentry => hentry).behind
  refine (ensures_changeRun (fun next => lawful_behind hbehind)
    (hbehind.launched.allCalled (by simp)) (by rw [hpending]; decide)).bind ?_
    fun _ _ herror => herror
  rintro started last ⟨hidentity, hstatus, -, rfl⟩
  unfold executePlanTasks
  rw [← hidentity.1, hrunId]
  exact ensures_executeEntries hvalid hstatus course.plan.tasks (List.nil_append _).symm
    .start hwaiting rfl rfl

theorem ensures_givenCorrelation (correlation : Option CorrelationContext)
    (fallback : CorrelationId → CorrelationContext) :
    course.scene.Ensures (givenCorrelation correlation fallback) record
      (Ends (fun _ last => last = record) course.Bad) := by
  unfold givenCorrelation
  cases correlation with
  | some given => exact ensures_pure rfl
  | none =>
      have hasked : course.scene.Ensures (Program.ask Service.newCorrelationId) record
          (Ends (fun _ last => last = record) course.Bad) :=
        ensures_ask (by simp) fun _ _ _ => rfl
      refine hasked.bind ?_ fun _ _ herror => herror
      rintro correlationId last rfl
      exact ensures_pure rfl

/-- The record of a new run is created. -/
theorem ensures_createRun {created : WorkflowRun} (hid : created.runId = course.runId)
    (hpending : created.status = .pending) :
    course.scene.Ensures (onStore (Memory.createWorkflowRun created)) ⟨none, [], []⟩
      (Ends (fun _ last => last = ⟨some created, [], []⟩) course.Bad) := by
  have hnone : course.Unstarted [] := ⟨by simp, by simp⟩
  exact ensures_createWorkflowRun hid hpending (fun _ _ => ⟨hnone.keeps hnone hpending, rfl⟩)
    fun _ _ hstored => absurd rfl hstored

/-- The run of a plan, from its creation to its result. -/
theorem ensures_run {workflow : Submission}
    (hplan : course.runtime.compile workflow = .ok course.plan)
    (hclass : course.classification = .empty) (correlation : Option CorrelationContext) :
    course.scene.Ensures (course.runtime.run workflow correlation) ⟨none, [], []⟩
      (Ends course.Concluded course.Bad) := by
  have hcalled : AllCalled ⟨none, [], []⟩ := by simp [AllCalled]
  unfold WorkflowRuntime.run
  rw [hplan]
  refine ensures_ofExcept_bind (fun value hvalue => ?_) fun _ herror => by cases herror
  obtain rfl := Except.ok.inj hvalue
  refine ensures_ofExcept_bind (fun _ haccepted => ?_) fun error herror => ?_
  case refine_2 =>
    have hrough : ¬ course.Smooth := by
      intro hsmooth
      rw [hsmooth.accepted] at herror
      cases herror
    exact ⟨fun _ => preflight_inOrder herror, fun _ => hcalled,
      .rough hrough unraised_nil.quiet⟩
  have hpreloaded : course.classification.Preloaded := by
    rw [hclass]
    exact preloaded_empty
  have hvalid : course.Valid :=
    ⟨hpreloaded, fun entry hentry => resolves_of_preflight haccepted hentry⟩
  have hasked : course.scene.Ensures (Program.ask Service.newWorkflowRunId) ⟨none, [], []⟩
      (Ends (fun runId last => runId = course.runId ∧ last = ⟨none, [], []⟩) course.Bad) :=
    ensures_ask (by simp) fun _ _ hfaithful => ⟨hfaithful, rfl⟩
  refine hasked.bind ?_ fun _ _ herror => herror
  rintro _ last ⟨rfl, rfl⟩
  refine (ensures_givenCorrelation correlation _).bind ?_ fun _ _ herror => herror
  rintro given last rfl
  have hclock : course.scene.Ensures now ⟨none, [], []⟩
      (Ends (fun _ last => last = ⟨none, [], []⟩) course.Bad) :=
    ensures_now (fun _ _ => rfl) fun hnone _ hharmless =>
      bad_of_called hcalled hharmless (.infirm fun hfirm => hfirm.orderly.clock _ hnone)
  refine hclock.bind ?_ fun _ _ herror => herror
  rintro at_ last rfl
  simp only
  generalize hcreated : newRun course.runtime course.plan course.runId
    (bindWorkflowCorrelation given course.runId) at_.instant none = created
  have hid : created.runId = course.runId := by
    rw [← hcreated]
    rfl
  have hpending : created.status = .pending := by
    rw [← hcreated]
    rfl
  refine (ensures_createRun hid hpending).bind ?_ fun _ _ herror => herror
  rintro _ last rfl
  refine (ensures_forEach (fun rest current => ∃ handled tasks,
    course.plan.tasks = handled ++ rest ∧ List.Forall₂ course.Waiting handled tasks ∧
    current = ⟨some created, tasks, []⟩) course.Bad course.plan.tasks ?_
    ⟨[], [], rfl, .nil, rfl⟩).bind ?_ fun _ _ herror => herror
  · rintro entry rest current ⟨handled, tasks, hsplit, hwaiting, rfl⟩
    have hhandled : ∀ other ∈ handled, other ∈ course.plan.tasks := by
      intro other hother
      rw [hsplit]
      exact List.mem_append_left _ hother
    refine (ensures_newTask (by simp [hsplit]) (unstarted_of_waiting hwaiting hhandled)
      hpending).bind ?_ fun _ _ herror => herror
    rintro _ last ⟨task, rfl, hkey, hstatus, hattempts, hnone, -, rfl⟩
    have hthis : course.Waiting entry task := by
      refine ⟨hkey, hattempts, fun hreused => ?_, fun _ => ⟨hstatus, hnone⟩⟩
      rw [hclass] at hreused
      cases hreused
    exact ensures_pure ⟨handled ++ [entry], tasks ++ [task], by simp [hsplit],
      List.rel_append hwaiting (.cons hthis .nil), rfl⟩
  · rintro _ last ⟨handled, tasks, hsplit, hwaiting, rfl⟩
    rw [List.append_nil] at hsplit
    have hlaunch := ensures_launch hvalid (hsplit ▸ hwaiting) hpending hid
      (bindWorkflowCorrelation given course.runId) course.plan.diagnostics
    rw [hclass] at hlaunch
    exact hlaunch

end Launch

section Resume

variable {originalRunId : WorkflowRunId} {force : List Text}

theorem checkpointIn_eq {task : TaskRecord} (hids : (tasks.map fun task =>
    task.taskRun.taskRunId).Nodup) (htask : task ∈ tasks) :
    checkpointIn tasks task.taskRun.taskRunId = task.checkpoint := by
  unfold checkpointIn
  cases hfound : tasks.find? fun other =>
      other.taskRun.taskRunId = task.taskRun.taskRunId with
  | none => simpa using List.find?_eq_none.mp hfound task htask
  | some found =>
      have hid : found.taskRun.taskRunId = task.taskRun.taskRunId := by
        simpa using List.find?_some hfound
      obtain rfl := List.inj_on_of_nodup_map hids (List.mem_of_find?_eq_some hfound) htask hid
      rfl

/-- The records of a settled run are those of its archive. -/
theorem tasksOf_settled {world : World} (hstands : course.scene.Stands record world)
    (hsettled : course.settled originalRunId) :
    world.store.workflowRuns.find? originalRunId = (course.archives originalRunId).run ∧
      world.store.tasksOf originalRunId = (course.archives originalRunId).tasks := by
  have harchive := hstands.archives originalRunId hsettled
  exact ⟨congrArg MemoryState.Archive.run harchive, congrArg MemoryState.Archive.tasks harchive⟩

/-- The entries of a plan are classified by the archive of a settled run. -/
theorem ensures_classifyEntries (hsettled : course.settled originalRunId)
    {parentTaskRuns : TaskRunsByKey}
    (hparents : ∀ taskRun ∈ parentTaskRuns.rows,
      ∃ task ∈ (course.archives originalRunId).tasks, task.taskRun = taskRun)
    (entries : List TaskPlanEntry) (classification : TaskResumeClassification) :
    course.scene.Ensures (classifyEntries parentTaskRuns force entries classification) record
      (Ends (fun result last => last = record ∧
        result = classified parentTaskRuns
          (checkpointIn (course.archives originalRunId).tasks) force entries classification)
        course.Halted) := by
  induction entries generalizing classification with
  | nil => exact ensures_pure ⟨rfl, rfl⟩
  | cons entry rest ih =>
      unfold classifyEntries
      cases hcandidate : reuseCandidate parentTaskRuns force classification.reusedKeys entry with
      | none =>
          have hsame : classifyEntry parentTaskRuns
              (checkpointIn (course.archives originalRunId).tasks) force classification entry =
                classification := by
            unfold classifyEntry
            rw [hcandidate]
          unfold classified
          rw [List.foldl_cons, hsame]
          exact ih classification
      | some parentTaskRun =>
          obtain ⟨-, -, hfound, -, -⟩ := reuseCandidate_eq_some.mp hcandidate
          obtain ⟨task, htask, rfl⟩ := hparents parentTaskRun (Table.mem_of_find? hfound)
          have hread : course.scene.Ensures
              (query fun store => store.outputCheckpoints.find? task.taskRun.taskRunId) record
              (Ends (fun checkpoint last => last = record ∧
                checkpoint = checkpointIn (course.archives originalRunId).tasks
                  task.taskRun.taskRunId) course.Halted) := by
            apply ensures_query
            intro world hstands
            refine ⟨rfl, ?_⟩
            have htasks := (tasksOf_settled hstands hsettled).2
            rw [← htasks] at htask ⊢
            rw [checkpointIn_eq (MemoryState.nodup_taskRunIds originalRunId) htask]
            exact (MemoryState.mem_tasksOf.mp htask).2.2.2.symm
          refine hread.bind ?_ fun _ _ herror => herror
          rintro checkpoint last ⟨rfl, rfl⟩
          unfold classified
          rw [List.foldl_cons]
          cases hstored : checkpointIn (course.archives originalRunId).tasks
              task.taskRun.taskRunId with
          | none =>
              have hnext : classifyEntry parentTaskRuns
                  (checkpointIn (course.archives originalRunId).tasks) force classification
                    entry = classification := by
                simp only [classifyEntry, hcandidate, hstored]
              rw [hnext]
              exact ih classification
          | some checkpoint =>
              have hnext : classifyEntry parentTaskRuns
                  (checkpointIn (course.archives originalRunId).tasks) force classification
                    entry = classification.reuse entry.key checkpoint := by
                simp only [classifyEntry, hcandidate, hstored]
              rw [hnext]
              exact ih (classification.reuse entry.key checkpoint)

theorem halted_of_bad {error : PyError} {last : RunRecord} (hbad : course.Bad error last) :
    course.Halted error last := ⟨hbad.order, hbad.called⟩

theorem ensures_halted {α : Type} {procedure : Procedure α} {good : α → RunRecord → Prop}
    (hensures : course.scene.Ensures procedure record (Ends good course.Bad)) :
    course.scene.Ensures procedure record (Ends good course.Halted) := by
  refine hensures.mono fun result last hresult => ?_
  cases result with
  | ok value => exact hresult
  | error error => exact halted_of_bad hresult

/-- Resuming a settled run, from its classification to the result of the new run. -/
theorem ensures_resumeRun {workflow : Submission}
    (hplan : course.runtime.compile workflow = .ok course.plan)
    (hsettled : course.settled originalRunId)
    (hclass : course.classification =
      classificationOf course.plan (course.archives originalRunId).tasks force)
    (correlation : Option CorrelationContext) :
    course.scene.Ensures (course.runtime.resumeRun originalRunId workflow correlation force)
      ⟨none, [], []⟩ (Ends course.Concluded course.Halted) := by
  have hcalled : AllCalled ⟨none, [], []⟩ := by simp [AllCalled]
  have hstopped : ∀ error : PyError, InOrder error → course.Halted error ⟨none, [], []⟩ :=
    fun error horder => ⟨fun _ => horder, fun _ => hcalled⟩
  unfold WorkflowRuntime.resumeRun
  have hparent : course.scene.Ensures
      (query fun store => store.workflowRuns.find? originalRunId) ⟨none, [], []⟩
      (Ends (fun parentRun last => last = ⟨none, [], []⟩ ∧
        parentRun = (course.archives originalRunId).run) course.Halted) :=
    ensures_query fun _ hstands => ⟨rfl, (tasksOf_settled hstands hsettled).1⟩
  refine hparent.bind ?_ fun _ _ herror => herror
  rintro _ last ⟨rfl, rfl⟩
  cases (course.archives originalRunId).run with
  | none => exact ensures_raise (hstopped _ fun key heq => by cases heq)
  | some parentRun =>
      simp only
      have hrequired : ∀ (condition : Prop) [Decidable condition] (error : PyError),
          InOrder error → course.scene.Ensures (.require condition error) ⟨none, [], []⟩
            (Ends (fun _ last => last = ⟨none, [], []⟩) course.Halted) :=
        fun _ _ _ horder => ensures_require (fun _ => rfl) fun _ => hstopped _ horder
      refine (hrequired _ _ fun key heq => by cases heq).bind ?_ fun _ _ herror => herror
      rintro _ last rfl
      rw [hplan]
      refine ensures_ofExcept_bind (fun value hvalue => ?_) fun _ herror => by cases herror
      obtain rfl := Except.ok.inj hvalue
      refine ensures_ofExcept_bind (fun _ haccepted => ?_)
        fun error herror => hstopped error (preflight_inOrder herror)
      refine (hrequired _ _ fun key heq => by cases heq).bind ?_ fun _ _ herror => herror
      rintro _ last rfl
      have hlisted : course.scene.Ensures (query fun store => store.listTaskRuns originalRunId)
          ⟨none, [], []⟩
          (Ends (fun taskRuns last => last = ⟨none, [], []⟩ ∧
            taskRuns = listed (course.archives originalRunId).tasks) course.Halted) := by
        refine ensures_query fun world hstands => ⟨rfl, ?_⟩
        rw [MemoryState.listTaskRuns_eq, (tasksOf_settled hstands hsettled).2]
        rfl
      refine hlisted.bind ?_ fun _ _ herror => herror
      rintro _ last ⟨rfl, rfl⟩
      have hparents : ∀ taskRun ∈ (Table.ofList
          (listed (course.archives originalRunId).tasks) : TaskRunsByKey).rows,
          ∃ task ∈ (course.archives originalRunId).tasks, task.taskRun = taskRun := by
        intro taskRun hmem
        have hmemListed := Table.mem_of_mem_ofList hmem
        unfold listed at hmemListed
        exact List.mem_map.mp ((sortBy_perm _ _).mem_iff.mp hmemListed)
      refine (ensures_classifyEntries hsettled hparents course.plan.tasks .empty).bind ?_
        fun _ _ herror => herror
      rintro _ last ⟨rfl, rfl⟩
      have hclassified : classified (.ofList (listed (course.archives originalRunId).tasks))
          (checkpointIn (course.archives originalRunId).tasks) force course.plan.tasks
          .empty = course.classification := hclass.symm
      rw [hclassified]
      have hpreloaded : course.classification.Preloaded := by
        rw [← hclassified]
        exact preloaded_classified _ preloaded_empty
      have hvalid : course.Valid :=
        ⟨hpreloaded, fun entry hentry => resolves_of_preflight haccepted hentry⟩
      apply ensures_halted
      have hasked : course.scene.Ensures (Program.ask Service.newWorkflowRunId)
          ⟨none, [], []⟩
          (Ends (fun runId last => runId = course.runId ∧ last = ⟨none, [], []⟩)
            course.Bad) :=
        ensures_ask (by simp) fun _ _ hfaithful => ⟨hfaithful, rfl⟩
      refine hasked.bind ?_ fun _ _ herror => herror
      rintro _ last ⟨rfl, rfl⟩
      refine (ensures_givenCorrelation correlation _).bind ?_ fun _ _ herror => herror
      rintro given last rfl
      have hclock : course.scene.Ensures now ⟨none, [], []⟩
          (Ends (fun _ last => last = ⟨none, [], []⟩) course.Bad) :=
        ensures_now (fun _ _ => rfl) fun hnone _ hharmless =>
          bad_of_called hcalled hharmless (.infirm fun hfirm => hfirm.orderly.clock _ hnone)
      refine hclock.bind ?_ fun _ _ herror => herror
      rintro at_ last rfl
      generalize hcreated : newRun course.runtime course.plan course.runId
        (bindWorkflowCorrelation given course.runId) at_.instant
        (some originalRunId.value) = created
      have hid : created.runId = course.runId := by
        rw [← hcreated]
        rfl
      have hpending : created.status = .pending := by
        rw [← hcreated]
        rfl
      refine (ensures_createRun hid hpending).bind ?_ fun _ _ herror => herror
      rintro _ last rfl
      have htasks : course.scene.Ensures
          (.mapEach course.plan.tasks
            (resumeTask created originalRunId at_.instant course.classification))
          ⟨some created, [], []⟩
          (Ends (fun _ last => ∃ tasks,
            List.Forall₂ course.Waiting course.plan.tasks tasks ∧
            last = ⟨some created, tasks, []⟩) course.Bad) := by
        refine ensures_mapEach (fun handled _ current => ∃ tasks,
          List.Forall₂ course.Waiting handled tasks ∧ current = ⟨some created, tasks, []⟩)
          course.Bad course.plan.tasks ?_ (fun _ _ hlast => hlast) ⟨[], .nil, rfl⟩
        rintro handled entry rest noted current hsplit ⟨tasks, hwaiting, rfl⟩
        have hhandled : ∀ other ∈ handled, other ∈ course.plan.tasks := by
          intro other hother
          rw [hsplit]
          exact List.mem_append_left _ hother
        refine (ensures_resumeTask hpreloaded (by simp [hsplit])
          (unstarted_of_waiting hwaiting hhandled) hpending hid originalRunId).mono
          fun result last hresult => ?_
        cases result with
        | error error => exact hresult
        | ok value =>
            obtain ⟨task, hthis, rfl⟩ := hresult
            exact ⟨tasks ++ [task], List.rel_append hwaiting (.cons hthis .nil), rfl⟩
      refine htasks.bind ?_ fun _ _ herror => herror
      rintro noted last ⟨tasks, hwaiting, rfl⟩
      exact ensures_launch hvalid hwaiting hpending hid _ _

end Resume

end Course

end PyWorkflowKit.Runtime
