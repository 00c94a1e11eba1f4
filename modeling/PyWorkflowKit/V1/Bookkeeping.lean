import PyWorkflowKit.V1.Mirrors

/-!
# The sequential runner keeps to the ledger

Every unit of work of `Runner.run` moves what the store holds of the run, and posts the events
of the move.
-/

namespace PyWorkflowKit.V1

open PyWorkflowKit.Core PyWorkflowKit.Domain
open PyWorkflowKit.Planning (DependencyGraph)

section Rules

variable {runId : WorkflowRunId} {run : WorkflowRun} {taskRuns others : TaskRuns}
  {store : MemoryState}

/-- Fewer task runs are known as well. -/
theorem Mirrors.mono (hmirrors : Mirrors runId run taskRuns store)
    (hsubset : ∀ taskRun ∈ others.rows, taskRun ∈ taskRuns.rows) :
    Mirrors runId run others store :=
  ⟨hmirrors.run, fun taskRun hmem => hmirrors.rows taskRun (hsubset taskRun hmem)⟩

/-- A task run that was saved twice is known as it was saved last. -/
theorem Mirrors.set_set {first second : TaskRun} (hsame : first.Same second)
    (hmirrors : Mirrors runId run ((taskRuns.set first).set second) store) :
    Mirrors runId run (taskRuns.set second) store := by
  apply hmirrors.mono
  intro taskRun hmem
  rw [Table.mem_set] at hmem ⊢
  rcases hmem with rfl | ⟨hold, hne⟩
  · exact Or.inl rfl
  · refine Or.inr ⟨?_, hne⟩
    rw [Table.mem_set]
    exact Or.inr ⟨hold, fun heq => hne (heq.trans hsame.taskId.symm)⟩

theorem mem_set_self (taskRuns : TaskRuns) (taskRun : TaskRun) :
    taskRun ∈ (taskRuns.set taskRun).rows :=
  (Table.mem_set _ _ _).mpr (Or.inl rfl)

theorem TaskRun.Same.trans {first second third : TaskRun} (hfirst : first.Same second)
    (hsecond : second.Same third) : first.Same third :=
  ⟨hsecond.taskRunId.trans hfirst.taskRunId, hsecond.runId.trans hfirst.runId,
    hsecond.taskId.trans hfirst.taskId⟩

end Rules

section Tasks

variable {runId : WorkflowRunId} {run : WorkflowRun} {taskRuns : TaskRuns} {world : World}
  {taskRun : TaskRun} {payload : Objects}

theorem keeps_readyTask (hknows : Knows runId run taskRuns world)
    (hmem : taskRun ∈ taskRuns.rows) (hplain : Plain payload) (last : Nat) :
    Keeps runId (fun ready after => taskRun.Same ready ∧
        Knows runId run (taskRuns.set ready) after)
      (readyTask run.runId taskRun payload last) world := by
  apply keeps_ask_bind hknows
  intro readyAt world hknows
  apply keeps_ofExcept_bind
  intro ready hready
  obtain ⟨hsame, hpending, hstatus⟩ := TaskRun.markReady_eq_ok hready
  apply (keeps_createTaskEvent .taskReady hknows last readyAt taskRun none
    hplain).bind
  rintro event world ⟨htells, hknows⟩
  have hcommit := keeps_commit_task [.saveTaskRun ready, .addEvent event] hknows hmem
    hsame rfl rfl (by simpa [WriteCall.event?] using htells.concerns rfl)
    (by
      rw [hpending, hstatus]
      simp only [List.filterMap_cons, WriteCall.event?, List.filterMap_nil, htells.eventType]
      exact .readied)
  apply hcommit.bind
  intro _ world hknows
  exact Keeps.pure ⟨hsame, hknows⟩

theorem keeps_newAttempt (hknows : Knows runId run taskRuns world) (attemptNumber : Nat)
    (hpositive : 1 ≤ attemptNumber) (startedAt : DateTime) :
    Keeps runId (fun _ after => Knows runId run taskRuns after)
      (newAttempt taskRun attemptNumber hpositive startedAt) world := by
  apply keeps_ask_bind hknows
  intro attemptId world hknows
  exact Keeps.pure hknows

/-- The unit of work that starts a task run with its first attempt. -/
theorem keeps_commit_started {started : TaskRun} {at_ : DateTime} {event : RuntimeEvent}
    (hknows : Knows runId run taskRuns world) (hmem : taskRun ∈ taskRuns.rows)
    (hstarted : taskRun.start at_ = .ok started)
    (htells : TellsTask runId .taskStarted taskRun event) (attempt : TaskAttempt) :
    Keeps runId (fun _ after => Knows runId run (taskRuns.set started) after)
      (commit [.saveTaskRun started, .addTaskAttempt attempt, .addEvent event]) world := by
  obtain ⟨hsame, hready, hstatus⟩ := TaskRun.start_eq_ok hstarted
  apply keeps_commit_task _ hknows hmem hsame rfl rfl
  · simpa [WriteCall.event?] using htells.concerns rfl
  · rw [hready, hstatus]
    simp only [List.filterMap_cons, WriteCall.event?, List.filterMap_nil, htells.eventType]
    exact .started

/-- The first attempt of a task starts the task run. -/
theorem keeps_startTask (hknows : Knows runId run taskRuns world)
    (hmem : taskRun ∈ taskRuns.rows) (attemptNumber : Nat) (hpositive : 1 ≤ attemptNumber)
    (hplain : Plain payload) (last : Nat) :
    Keeps runId (fun started after => taskRun.Same started.1 ∧
        Knows runId run (taskRuns.set started.1) after)
      (startTask run.runId taskRun false attemptNumber hpositive payload last) world := by
  unfold startTask
  apply keeps_ask_bind hknows
  intro startedAt world hknows
  apply keeps_ofExcept_bind
  intro started hstarted
  apply (keeps_newAttempt hknows attemptNumber hpositive startedAt).bind
  intro attempt world hknows
  apply (keeps_createTaskEvent .taskStarted hknows last startedAt taskRun
    (some attempt) hplain).bind
  rintro event world ⟨htells, hknows⟩
  apply (keeps_commit_started hknows hmem hstarted htells attempt).bind
  intro _ world hknows
  exact Keeps.pure ⟨(TaskRun.start_eq_ok hstarted).1, hknows⟩

section Success

variable {attempt : TaskAttempt} {result : TaskResult} {event : RuntimeEvent}

/-- What a success saves beside the task run and its event. -/
def evidenceCalls (taskRunId : TaskRunId) (result : TaskResult) : List WriteCall :=
  checkpointCalls taskRunId result.output ++
    result.artifacts.map (WriteCall.addArtifact taskRunId) ++
    result.externalRefs.map (WriteCall.addExternalRunRef taskRunId)

/-- The evidence of a success moves no status. -/
theorem filterMap_evidenceCalls {β : Type} (project : WriteCall → Option β)
    (taskRunId : TaskRunId) (result : TaskResult)
    (hcheckpoint : ∀ id output, project (.addTaskOutputCheckpoint id output) = none)
    (hartifact : ∀ id artifact, project (.addArtifact id artifact) = none)
    (hreference : ∀ id reference, project (.addExternalRunRef id reference) = none) :
    (evidenceCalls taskRunId result).filterMap project = [] := by
  apply List.filterMap_eq_nil_iff.mpr
  intro call hcall
  rcases List.mem_append.mp hcall with hfirst | hreferences
  · rcases List.mem_append.mp hfirst with hcheckpoints | hartifacts
    · unfold checkpointCalls at hcheckpoints
      split at hcheckpoints
      · rw [List.mem_singleton.mp hcheckpoints]
        exact hcheckpoint _ _
      · cases hcheckpoints
    · obtain ⟨artifact, -, rfl⟩ := List.mem_map.mp hartifacts
      exact hartifact _ _
  · obtain ⟨reference, -, rfl⟩ := List.mem_map.mp hreferences
    exact hreference _ _

theorem keeps_persistExecutionSuccess (hknows : Knows runId run taskRuns world)
    (hmem : taskRun ∈ taskRuns.rows) (htells : TellsTask runId .taskSucceeded taskRun event) :
    Keeps runId (fun succeeded after => taskRun.Same succeeded ∧
        Knows runId run (taskRuns.set succeeded) after)
      (persistExecutionSuccess taskRun attempt result event) world := by
  apply keeps_ofExcept_bind
  intro succeededAttempt _
  apply keeps_ofExcept_bind
  intro succeeded hsucceeded
  obtain ⟨hsame, hrunning, hstatus⟩ := TaskRun.finish_eq_ok hsucceeded
  have hcalls : ∀ first : List WriteCall,
      first ++ checkpointCalls taskRun.taskRunId result.output ++
        result.artifacts.map (.addArtifact taskRun.taskRunId) ++
        result.externalRefs.map (.addExternalRunRef taskRun.taskRunId) =
      first ++ evidenceCalls taskRun.taskRunId result := by
    intro first
    rw [evidenceCalls, List.append_assoc, List.append_assoc, List.append_assoc]
  rw [hcalls]
  have hruns := filterMap_evidenceCalls WriteCall.workflowRun? taskRun.taskRunId
    result (fun _ _ => rfl) (fun _ _ => rfl) fun _ _ => rfl
  have hsaved := filterMap_evidenceCalls WriteCall.taskRun? taskRun.taskRunId
    result (fun _ _ => rfl) (fun _ _ => rfl) fun _ _ => rfl
  have hevents := filterMap_evidenceCalls WriteCall.event? taskRun.taskRunId
    result (fun _ _ => rfl) (fun _ _ => rfl) fun _ _ => rfl
  generalize evidenceCalls taskRun.taskRunId result = evidence at *
  have hposted : List.filterMap WriteCall.event? ([.saveTaskAttempt succeededAttempt,
      .saveTaskRun succeeded, .addEvent event] ++ evidence) = [event] := by
    rw [List.filterMap_append, hevents]
    rfl
  have hcommit := keeps_commit_task
    ([.saveTaskAttempt succeededAttempt, .saveTaskRun succeeded, .addEvent event] ++
      evidence) hknows hmem hsame
    (by rw [List.filterMap_append, hruns]; rfl) (by rw [List.filterMap_append, hsaved]; rfl)
    (by
      rw [hposted]
      simpa using htells.concerns rfl)
    (by
      rw [hposted, hrunning, hstatus, List.filterMap_cons, htells.eventType]
      exact .succeeded)
  apply hcommit.bind
  intro _ world hknows
  exact Keeps.pure ⟨hsame, hknows⟩

end Success

end Tasks

section Failure

variable {runId : WorkflowRunId} {run : WorkflowRun} {taskRuns : TaskRuns} {world : World}
  {taskRun : TaskRun}

/-- A failure decides each task of the plan at most once, and never the task that failed. -/
theorem sublist_planFailFast (failedTaskId : TaskId) (graph : DependencyGraph)
    (taskRuns : TaskRuns) (planTaskIds : List TaskId) :
    ((planFailFast failedTaskId graph taskRuns planTaskIds).map TaskSkipDecision.taskId).Sublist
      (planTaskIds.filter fun taskId => taskId ≠ failedTaskId) := by
  induction planTaskIds with
  | nil => exact .slnil
  | cons taskId rest ih =>
      rw [planFailFast, List.filterMap_cons, List.filter_cons]
      by_cases hfailed : taskId = failedTaskId
      · simp only [hfailed, if_true, ne_eq, not_true, decide_false]
        exact ih
      · simp only [hfailed, if_false, ne_eq, not_false_eq_true, decide_true, if_true]
        cases taskRuns.find? taskId with
        | none => exact ih.cons _
        | some found =>
            cases hwaits : found.status.undispatched with
            | true =>
                simp only [hwaits, if_true]
                exact ih.cons_cons _
            | false =>
                simp only [hwaits, Bool.false_eq_true, if_false]
                exact ih.cons _

/-- The skipped task runs in the order of the decisions, each from a task run that waited. -/
theorem skipTaskRuns_eq_ok {at_ : DateTime} {decisions : List TaskSkipDecision}
    {skipped : List (TaskRun × SkipReason)}
    (hskipped : skipTaskRuns taskRuns at_ decisions = .ok skipped) :
    (skipped.map Prod.fst).map TaskRun.taskId = decisions.map TaskSkipDecision.taskId ∧
      ∀ moved ∈ skipped.map Prod.fst, ∃ known ∈ taskRuns.rows, known.Same moved ∧
        (known.status = .pending ∨ known.status = .ready) ∧ moved.status = .skipped := by
  induction decisions generalizing skipped with
  | nil =>
      cases hskipped
      exact ⟨rfl, by simp⟩
  | cons decision rest ih =>
      rw [skipTaskRuns] at hskipped
      cases hfound : taskRuns.find? decision.taskId with
      | none =>
          rw [hfound] at hskipped
          cases hskipped
      | some known =>
          rw [hfound] at hskipped
          obtain ⟨moved, hmoved, hskipped⟩ := bind_eq_ok hskipped
          obtain ⟨others, hothers, hskipped⟩ := bind_eq_ok hskipped
          cases hskipped
          obtain ⟨hmem, hkey⟩ := (taskRuns.find?_eq_some_iff _ _).mp hfound
          obtain ⟨hids, hknown⟩ := ih hothers
          obtain ⟨hsame, hwaits, hstatus⟩ := TaskRun.skip_eq_ok hmoved
          rw [List.map_cons]
          refine ⟨by rw [List.map_cons, List.map_cons, hids, hsame.taskId, hkey], ?_⟩
          intro later hlater
          rcases List.mem_cons.mp hlater with rfl | hrest
          · exact ⟨known, hmem, hsame, hwaits, hstatus⟩
          · exact hknown later hrest

theorem keeps_createSkipEvents (hknows : Knows runId run taskRuns world) (at_ : DateTime)
    {payload : SkipReason → Objects} (hplain : ∀ reason, Plain (payload reason)) (last : Nat)
    (skipped : List (TaskRun × SkipReason)) :
    Keeps runId (fun events after => List.Forall₂
        (TellsTask runId .taskSkipped) (skipped.map Prod.fst) events ∧
        Knows runId run taskRuns after)
      (createSkipEvents run.runId at_ payload last skipped) world := by
  induction skipped generalizing last world with
  | nil => exact Keeps.pure ⟨.nil, hknows⟩
  | cons entry rest ih =>
      obtain ⟨moved, reason⟩ := entry
      rw [createSkipEvents]
      apply (keeps_createTaskEvent .taskSkipped hknows last at_ moved none
        (hplain reason)).bind
      rintro event world ⟨htells, hknows⟩
      apply (ih hknows (last + 1)).bind
      rintro others world ⟨hothers, hknows⟩
      exact Keeps.pure ⟨.cons htells hothers, hknows⟩

/-- Each skipped task run has one event. -/
theorem filterMap_skipEvents {skipped : List TaskRun} {events : List RuntimeEvent}
    (htells : List.Forall₂ (TellsTask runId .taskSkipped) skipped events)
    (hnodup : (skipped.map TaskRun.taskRunId).Nodup) (taskRunId : TaskRunId) :
    events.filterMap (RuntimeEvent.taskMark taskRunId) =
      if taskRunId ∈ skipped.map TaskRun.taskRunId then [.ends] else [] := by
  induction htells with
  | nil => rfl
  | @cons moved event rest others hfirst _ ih =>
      obtain ⟨habsent, hrest⟩ := List.nodup_cons.mp hnodup
      rw [List.filterMap_cons, ih hrest, RuntimeEvent.taskMark, hfirst.taskRunId,
        hfirst.eventType]
      by_cases hsame : moved.taskRunId = taskRunId
      · subst hsame
        rw [if_pos rfl, if_neg habsent, if_pos (by simp)]
        rfl
      · have hmem : taskRunId ∈ (moved :: rest).map TaskRun.taskRunId ↔
            taskRunId ∈ rest.map TaskRun.taskRunId := by
          rw [List.map_cons, List.mem_cons]
          exact or_iff_right (Ne.symm hsame)
        rw [if_neg fun heq => hsame (Option.some.inj heq)]
        simp only [hmem]

/-- What a terminal failure saves of the task that failed, of those that it skips, and of the
run, with the events that it adds. -/
structure TerminalMoves where
  failedTask : TaskRun
  skipped : List TaskRun
  failedRun : WorkflowRun
  taskFailed : RuntimeEvent
  taskSkipped : List RuntimeEvent
  workflowFailed : RuntimeEvent

namespace TerminalMoves

variable (moves : TerminalMoves)

def saved : List TaskRun := moves.failedTask :: moves.skipped

def events : List RuntimeEvent :=
  moves.taskFailed :: (moves.taskSkipped ++ [moves.workflowFailed])

def calls (attempt : TaskAttempt) : List WriteCall :=
  [.saveTaskAttempt attempt, .saveTaskRun moves.failedTask] ++
    moves.skipped.map .saveTaskRun ++ [.saveWorkflowRun moves.failedRun,
      .addEvent moves.taskFailed] ++ moves.taskSkipped.map .addEvent ++
    [.addEvent moves.workflowFailed]

theorem workflowRun_calls (attempt : TaskAttempt) :
    (moves.calls attempt).filterMap WriteCall.workflowRun? = [moves.failedRun] := by
  simp [calls, WriteCall.workflowRun?, List.filterMap_map, Function.comp_def,
    List.filterMap_cons]

theorem taskRun_calls (attempt : TaskAttempt) :
    (moves.calls attempt).filterMap WriteCall.taskRun? = moves.saved := by
  simp [calls, saved, WriteCall.taskRun?, List.filterMap_map, Function.comp_def,
    List.filterMap_cons]

theorem event_calls (attempt : TaskAttempt) :
    (moves.calls attempt).filterMap WriteCall.event? = moves.events := by
  simp [calls, events, WriteCall.event?, List.filterMap_map, Function.comp_def,
    List.filterMap_cons]

/-- The moves of a terminal failure of this task run. -/
structure Of (runId : WorkflowRunId) (run : WorkflowRun) (taskRuns : TaskRuns)
    (taskRun : TaskRun) (moves : TerminalMoves) : Prop where
  known : taskRun ∈ taskRuns.rows
  same : taskRun.Same moves.failedTask
  running : taskRun.status = .running
  failed : moves.failedTask.status = .failed
  runSame : moves.failedRun.runId = run.runId
  runRunning : run.status = .running
  runFailed : moves.failedRun.status = .failed
  waiting : ∀ moved ∈ moves.skipped, ∃ known ∈ taskRuns.rows, known.Same moved ∧
    (known.status = .pending ∨ known.status = .ready) ∧ moved.status = .skipped
  distinct : (moves.saved.map TaskRun.taskId).Nodup
  tellsFailed : TellsTask runId .taskFailed taskRun moves.taskFailed
  tellsSkipped : List.Forall₂ (TellsTask runId .taskSkipped) moves.skipped moves.taskSkipped
  tellsWorkflow : TellsRun runId .workflowFailed moves.workflowFailed

variable {moves} {before after : MemoryState} {attempt : TaskAttempt}

theorem Of.replaces (hof : Of runId run taskRuns taskRun moves) :
    ∀ saved ∈ moves.saved, Replaces taskRuns saved := by
  intro saved hsaved
  rcases List.mem_cons.mp hsaved with rfl | hskipped
  · exact ⟨taskRun, hof.known, hof.same⟩
  · obtain ⟨known, hknown, hsame, -⟩ := hof.waiting saved hskipped
    exact ⟨known, hknown, hsame⟩

theorem Of.distinctIds (hof : Of runId run taskRuns taskRun moves)
    (hmirrors : Mirrors runId run taskRuns before) :
    taskRun.taskRunId ∉ moves.skipped.map TaskRun.taskRunId ∧
      (moves.skipped.map TaskRun.taskRunId).Nodup := by
  have hids := hmirrors.nodup_taskRunIds hof.replaces hof.distinct
  rw [saved, List.map_cons, hof.same.taskRunId] at hids
  exact List.nodup_cons.mp hids

theorem Of.legible (hof : Of runId run taskRuns taskRun moves) :
    ∀ event ∈ moves.events, Legible runId event := by
  intro event hevent
  rcases List.mem_cons.mp hevent with rfl | hlater
  · exact hof.tellsFailed.toLegible
  · rcases List.mem_append.mp hlater with hskip | hlast
    · obtain ⟨moved, -, htells⟩ := exists_of_forall₂_right hof.tellsSkipped hskip
      exact htells.toLegible
    · rw [List.mem_singleton.mp hlast]
      exact hof.tellsWorkflow.toLegible

/-- The end of the run is marked once. -/
theorem Of.runMarks (hof : Of runId run taskRuns taskRun moves) :
    moves.events.filterMap (RuntimeEvent.runMark runId) = [.ends] := by
  have hskipped : moves.taskSkipped.filterMap (RuntimeEvent.runMark runId) = [] := by
    apply List.filterMap_eq_nil_iff.mpr
    intro event hevent
    obtain ⟨moved, -, htells⟩ := exists_of_forall₂_right hof.tellsSkipped hevent
    rw [RuntimeEvent.runMark, htells.eventType]
    exact ite_self _
  have hfailed : moves.taskFailed.runMark runId = none := by
    rw [RuntimeEvent.runMark, hof.tellsFailed.eventType]
    exact ite_self _
  have hlast : moves.workflowFailed.runMark runId = some .ends := by
    rw [RuntimeEvent.runMark, hof.tellsWorkflow.eventType, if_pos hof.tellsWorkflow.runId]
    rfl
  rw [events, List.filterMap_cons_none hfailed, List.filterMap_append, hskipped,
    List.filterMap_cons_some hlast]
  rfl

/-- The end of each task run that is moved is marked once. -/
theorem Of.taskMarks (hof : Of runId run taskRuns taskRun moves)
    (hmirrors : Mirrors runId run taskRuns before) (taskRunId : TaskRunId) :
    moves.events.filterMap (RuntimeEvent.taskMark taskRunId) =
      if taskRunId ∈ moves.saved.map TaskRun.taskRunId then [.ends] else [] := by
  obtain ⟨habsent, hnodup⟩ := hof.distinctIds hmirrors
  have hlast : moves.workflowFailed.taskMark taskRunId = none := by
    rw [RuntimeEvent.taskMark, hof.tellsWorkflow.taskRunId]
    rfl
  have hskipped := filterMap_skipEvents hof.tellsSkipped hnodup taskRunId
  rw [saved, List.map_cons, hof.same.taskRunId]
  by_cases hown : taskRunId = taskRun.taskRunId
  · subst hown
    have hfailed : moves.taskFailed.taskMark taskRun.taskRunId = some .ends := by
      rw [RuntimeEvent.taskMark, hof.tellsFailed.taskRunId, hof.tellsFailed.eventType,
        if_pos rfl]
      rfl
    rw [events, List.filterMap_cons_some hfailed, List.filterMap_append, hskipped,
      if_neg habsent, List.filterMap_cons_none hlast, if_pos List.mem_cons_self]
    rfl
  · have hfailed : moves.taskFailed.taskMark taskRunId = none := by
      rw [RuntimeEvent.taskMark, hof.tellsFailed.taskRunId,
        if_neg fun heq => hown (Option.some.inj heq).symm]
    rw [events, List.filterMap_cons_none hfailed, List.filterMap_append, hskipped,
      List.filterMap_cons_none hlast, List.filterMap_nil, List.append_nil]
    simp only [List.mem_cons, hown, false_or]

/-- A terminal failure moves the task run that failed, those that it skips, and the run. -/
theorem Of.settles (hof : Of runId run taskRuns taskRun moves)
    (hmirrors : Mirrors runId run taskRuns before)
    (hsettles : Settles (moves.calls attempt) before after) :
    Posts runId before after ((moves.calls attempt).filterMap WriteCall.event?) ∧
      Mirrors runId moves.failedRun (moves.saved.foldl Table.set taskRuns) after := by
  have hmovedRun : after.workflowRuns.find? runId = some moves.failedRun := by
    rw [hsettles.workflowRuns, workflowRun_calls, List.foldl_cons, List.foldl_nil,
      ← hmirrors.runId_eq, ← hof.runSame]
    exact Table.find?_set_self _ _
  have hkept := hmirrors.save hsettles hmovedRun
  rw [taskRun_calls] at hkept
  refine ⟨?_, hkept hof.replaces hof.distinct⟩
  apply hsettles.posts
  · rw [event_calls]
    exact hof.legible
  · have hstatus : before.runStatus runId = some .running := by
      rw [MemoryState.runStatus, hmirrors.run, Option.map_some, hof.runRunning]
    rw [event_calls, hof.runMarks, hstatus, MemoryState.runStatus, hmovedRun, Option.map_some,
      hof.runFailed]
    exact .ended rfl
  · rw [taskRun_calls]
    exact hmirrors.nodup_taskRunIds hof.replaces hof.distinct
  · rw [taskRun_calls]
    intro saved hsaved
    obtain ⟨known, hknown, hsame⟩ := hof.replaces saved hsaved
    rw [hsame.runId, hmirrors.runId_of_mem hknown]
  · rw [taskRun_calls, event_calls]
    intro saved hsaved
    rw [hof.taskMarks hmirrors, if_pos (List.mem_map_of_mem hsaved), MemoryState.taskStatus]
    rcases List.mem_cons.mp hsaved with rfl | hskipped
    · rw [hof.same.taskRunId, hmirrors.rows taskRun hof.known, Option.map_some, hof.running,
        hof.failed]
      exact .failed
    · obtain ⟨known, hknown, hsame, hwaits, hstatus⟩ := hof.waiting saved hskipped
      rw [hsame.taskRunId, hmirrors.rows known hknown, Option.map_some, hstatus]
      exact .skipped hwaits
  · rw [taskRun_calls, event_calls]
    intro taskRunId habsent
    rw [hof.taskMarks hmirrors, if_neg habsent]

end TerminalMoves

/-- A terminal failure in memory is the one that was persisted. -/
theorem keeps_persistTerminalFailure (hknows : Knows runId run taskRuns world)
    (hmem : taskRun ∈ taskRuns.rows) {planTaskIds : List TaskId} (hplan : planTaskIds.Nodup)
    (attempt : TaskAttempt) (graph : DependencyGraph) (errorType errorCategory : String)
    (last : Nat) :
    Keeps runId (fun failure after => Knows runId failure.run
        (failure.taskRuns.foldl Table.set taskRuns) after)
      (persistTerminalFailure run taskRun attempt graph planTaskIds taskRuns errorType
        errorCategory last) world := by
  rw [persistTerminalFailure]
  cases attempt.finishedAt with
  | none => exact Keeps.raise _
  | some finishedAt =>
      apply keeps_ofExcept_bind
      intro failedTask hfailedTask
      apply keeps_ofExcept_bind
      intro skipped hskipped
      apply keeps_ofExcept_bind
      intro failedRun hfailedRun
      obtain ⟨hsame, hrunning, hfailed⟩ := TaskRun.finish_eq_ok hfailedTask
      obtain ⟨hids, hwaiting⟩ := skipTaskRuns_eq_ok hskipped
      obtain ⟨hrunSame, hrunRunning, hrunFailed⟩ := WorkflowRun.finish_eq_ok hfailedRun
      apply (keeps_createTaskEvent .taskFailed hknows last finishedAt taskRun
        (some attempt) (by simp [Plain, TextKeys])).bind
      rintro taskFailed world ⟨htaskFailed, hknows⟩
      apply (keeps_createSkipEvents hknows finishedAt (by simp [Plain, TextKeys]) (last + 1)
        skipped).bind
      rintro taskSkipped world ⟨htaskSkipped, hknows⟩
      apply (keeps_createWorkflowEvent .workflowFailed hknows
        (last + 1 + skipped.length) finishedAt (by simp [Plain, TextKeys])).bind
      rintro workflowFailed world ⟨hworkflowFailed, hknows⟩
      let moves : TerminalMoves :=
        ⟨failedTask, skipped.map Prod.fst, failedRun, taskFailed, taskSkipped, workflowFailed⟩
      have hdistinct : (moves.saved.map TaskRun.taskId).Nodup := by
        have hsublist := sublist_planFailFast taskRun.taskId graph taskRuns planTaskIds
        rw [TerminalMoves.saved, List.map_cons, hids, hsame.taskId, List.nodup_cons]
        constructor
        · intro hself
          have hother := hsublist.subset hself
          simp at hother
        · exact (hplan.filter _).sublist hsublist
      have hof : moves.Of runId run taskRuns taskRun :=
        ⟨hmem, hsame, hrunning, hfailed, hrunSame, hrunRunning, hrunFailed, hwaiting, hdistinct,
          htaskFailed, htaskSkipped, hworkflowFailed⟩
      have hcalls : [.saveTaskAttempt attempt, .saveTaskRun failedTask] ++
          (skipped.map fun entry => .saveTaskRun entry.1) ++
          [.saveWorkflowRun failedRun, .addEvent taskFailed] ++
          taskSkipped.map .addEvent ++ [.addEvent workflowFailed] = moves.calls attempt := by
        rw [TerminalMoves.calls, List.map_map]
        rfl
      rw [hcalls]
      apply Keeps.through (fun _ after => Knows runId failedRun
        (moves.saved.foldl Table.set taskRuns) after)
      · apply keeps_commit
        intro drifted after hdrift hwritten
        obtain ⟨hposts, hkept⟩ :=
          hof.settles (hknows.drift hdrift) (settles_of_unitOfWork hwritten)
        exact ⟨⟨_, hposts⟩, hkept⟩
      · intro _ world hknows
        exact Keeps.pure hknows

end Failure

section Attempts

variable {runId : WorkflowRunId} {run : WorkflowRun} {taskRuns : TaskRuns} {world : World}
  {taskRun : TaskRun}

theorem keeps_createRetryEvent (hknows : Knows runId run taskRuns world)
    (settings : RunnerSettings) (last : Nat) (failedAt eligibleAt : DateTime)
    (attempt : TaskAttempt) (decision : RetryDecision) (errorType errorCategory : String)
    {timeout : Objects} (hplain : Plain timeout) :
    Keeps runId (fun event after => TellsTask runId .taskRetrying taskRun event ∧
        Knows runId run taskRuns after)
      (createRetryEvent settings run.runId last failedAt eligibleAt taskRun attempt decision
        errorType errorCategory timeout) world := by
  apply keeps_createTaskEvent _ hknows
  intro member hmember
  rcases List.mem_append.mp hmember with hfirst | hlast
  · rcases List.mem_append.mp hfirst with herror | htimeout
    · simp only [List.mem_cons, List.not_mem_nil, or_false] at herror
      rcases herror with rfl | rfl <;> trivial
    · exact hplain member htimeout
  · simp only [List.mem_cons, List.not_mem_nil, or_false] at hlast
    rcases hlast with rfl | rfl | rfl <;> trivial

/-- A retry that is scheduled moves no status. -/
theorem keeps_commit_retry (hknows : Knows runId run taskRuns world) {scheduled : TaskAttempt}
    {event : RuntimeEvent} (htells : TellsTask runId .taskRetrying taskRun event) :
    Keeps runId (fun _ after => Knows runId run taskRuns after)
      (commit [.saveTaskAttempt scheduled, .addEvent event]) world := by
  apply keeps_commit_nothing hknows rfl rfl
  simp only [List.filterMap_cons, WriteCall.event?, List.filterMap_nil, List.mem_singleton]
  rintro other rfl
  exact ⟨htells.toLegible, by rw [htells.eventType]; rfl, by rw [htells.eventType]; rfl⟩

/-- A new attempt moves no status. -/
theorem keeps_commit_attempt (hknows : Knows runId run taskRuns world) (attempt : TaskAttempt) :
    Keeps runId (fun _ after => Knows runId run taskRuns after)
      (commit [.addTaskAttempt attempt]) world :=
  keeps_commit_nothing hknows rfl rfl (by simp [WriteCall.event?])

/-- The attempts of a task: where they end in a success, the task run is known as it was
saved. -/
theorem keeps_executeWithRetry {dispatch : Dispatch} (hplan : dispatch.planTaskIds.Nodup)
    (hmem : taskRun ∈ taskRuns.rows) (task : TaskDefinition)
    (inputs : List (TaskId × PyValue)) (rounds : Nat) (attempt : TaskAttempt) (last : Nat)
    (hknows : Knows runId dispatch.run taskRuns world) :
    Keeps runId (fun finished after => taskRun.Same finished.taskRun ∧
        Knows runId dispatch.run (taskRuns.set finished.taskRun) after)
      (executeWithRetry dispatch task taskRun taskRuns inputs rounds attempt last) world := by
  induction rounds generalizing attempt last world with
  | zero => exact Keeps.raise _
  | succ rounds ih =>
      rw [executeWithRetry]
      apply keeps_ask_bind hknows
      intro execution world hknows
      cases execution with
      | raised typeName => exact Keeps.raise _
      | returned result =>
          apply keeps_ask_bind hknows
          intro finishedAt world hknows
          apply (keeps_createTaskEvent .taskSucceeded hknows last finishedAt
            taskRun (some attempt) (by simp [Plain])).bind
          rintro event world ⟨htells, hknows⟩
          apply (keeps_persistExecutionSuccess hknows hmem htells).bind
          rintro succeeded world ⟨hsame, hknows⟩
          exact Keeps.pure ⟨hsame, hknows⟩
      | failed error =>
          apply keeps_ask_bind hknows
          intro failedAt world hknows
          apply keeps_ofExcept_bind
          intro failed _
          apply keeps_ofExcept_bind
          intro decision _
          cases decision with
          | none =>
              apply (keeps_persistTerminalFailure hknows hmem hplan failed dispatch.graph _ _
                last).bind
              intro failure world _
              exact Keeps.raise _
          | some decision =>
              apply keeps_ofExcept_bind
              intro eligibleAt _
              apply keeps_ofExcept_bind
              intro scheduled _
              apply (keeps_createRetryEvent hknows dispatch.settings last failedAt eligibleAt
                attempt decision _ _ (by simp [Plain])).bind
              rintro event world ⟨htells, hknows⟩
              apply (keeps_commit_retry hknows htells).bind
              intro _ world hknows
              have hrest : ∀ world, Knows runId dispatch.run taskRuns world →
                  Keeps runId (fun finished after => taskRun.Same finished.taskRun ∧
                    Knows runId dispatch.run (taskRuns.set finished.taskRun) after)
                  (do
                    let startedAt ← now
                    let next ← newAttempt taskRun decision.nextAttemptNumber
                      (Nat.le_of_succ_le decision.later) startedAt
                    commit [.addTaskAttempt next]
                    executeWithRetry dispatch task taskRun taskRuns inputs rounds next
                      (last + 1)) world := by
                intro world hknows
                apply keeps_ask_bind hknows
                intro startedAt world hknows
                apply (keeps_newAttempt hknows decision.nextAttemptNumber
                  (Nat.le_of_succ_le decision.later) startedAt).bind
                intro next world hknows
                apply (keeps_commit_attempt hknows next).bind
                intro _ world hknows
                exact ih next (last + 1) hknows
              split
              · apply keeps_ask_bind hknows
                intro _ world hknows
                exact hrest world hknows
              · exact hrest world hknows

end Attempts

section Beginning

variable {runId : WorkflowRunId} {world : World}

theorem Unbegun.drift {before after : MemoryState} (hunbegun : Unbegun runId before)
    (hsame : SameRun runId before after) : Unbegun runId after := by
  constructor
  · rw [hsame.runStatus]
    exact hunbegun.run
  · intro taskRunId
    rw [hsame.taskStatus]
    exact hunbegun.taskRuns taskRunId
  · rw [hsame.log]
    exact hunbegun.log

/-- A call before the run has begun, and then the rest. -/
theorem keeps_ask_bind_of_unbegun {α : Type} {service : Service}
    {next : Service.Answer service → Procedure α} {good : α → World → Prop}
    (hunbegun : Unbegun runId world.store)
    (hnext : ∀ answer (after : World), names runId after service answer →
      Unbegun runId after.store → Keeps runId good (next answer) after) :
    Keeps runId good (Program.ask service >>= next) world := by
  apply Keeps.through (fun answer after => names runId after service answer ∧
    Unbegun runId after.store)
  · exact ⟨trivial, fun drifted hdrift answer hallows => ⟨hallows, hunbegun.drift hdrift⟩⟩
  · rintro answer after ⟨hallows, hunbegun⟩
    exact hnext answer after hallows hunbegun

/-- The new task runs are PENDING, one for each task of the plan. -/
theorem keeps_createTaskRuns (hunbegun : Unbegun runId world.store) (createdAt : DateTime)
    (planTaskIds : List TaskId) :
    Keeps runId (fun taskRuns after => Unbegun runId after.store ∧
        taskRuns.map TaskRun.taskId = planTaskIds ∧
        ∀ taskRun ∈ taskRuns, taskRun.runId = runId ∧ taskRun.status = .pending)
      (createTaskRuns runId createdAt planTaskIds) world := by
  apply Program.meets_mapEach (fun handled taskRuns after => Unbegun runId after.store ∧
    taskRuns.map TaskRun.taskId = handled ∧
    ∀ taskRun ∈ taskRuns, taskRun.runId = runId ∧ taskRun.status = .pending)
  · rintro handled taskId rest taskRuns current - ⟨hunbegun, hids, hnew⟩
    apply keeps_ask_bind_of_unbegun hunbegun
    intro taskRunId after _ hunbegun
    apply Keeps.pure
    refine ⟨hunbegun, by rw [List.map_append, hids]; rfl, ?_⟩
    intro taskRun hmem
    rcases List.mem_append.mp hmem with hold | hlast
    · exact hnew taskRun hold
    · rw [List.mem_singleton.mp hlast]
      exact ⟨rfl, rfl⟩
  · exact fun _ _ hdone => hdone
  · exact ⟨hunbegun, rfl, by simp⟩

/-- Task runs that were added have distinct identities. -/
theorem nodup_of_addTaskRuns {taskRuns : List TaskRun} {before after : MemoryState}
    (hwritten : before.unitOfWork (taskRuns.map .addTaskRun) = .ok after) :
    (∀ taskRun ∈ taskRuns, before.taskRuns.contains taskRun.taskRunId = false) ∧
      (taskRuns.map TaskRun.taskRunId).Nodup := by
  induction taskRuns generalizing before with
  | nil => exact ⟨by simp, List.nodup_nil⟩
  | cons first rest ih =>
      obtain ⟨written, hwrite, hrest⟩ := MemoryState.unitOfWork_cons_eq_ok.mp hwritten
      obtain ⟨habsent, -, rfl⟩ := (MemoryState.write_addTaskRun first).mp hwrite
      obtain ⟨hothers, hnodup⟩ := ih hrest
      have hne : ∀ taskRun ∈ rest, taskRun.taskRunId ≠ first.taskRunId := by
        intro taskRun hmem heq
        have hpresent := hothers taskRun hmem
        rw [heq, Table.contains, Table.find?_set_self] at hpresent
        cases hpresent
      constructor
      · intro taskRun hmem
        rcases List.mem_cons.mp hmem with rfl | hlater
        · exact habsent
        · have hkept := hothers taskRun hlater
          rwa [Table.contains, Table.find?_set_of_ne _ _ (Ne.symm (hne taskRun hlater))] at hkept
      · rw [List.map_cons, List.nodup_cons]
        refine ⟨fun hmem => ?_, hnodup⟩
        obtain ⟨taskRun, htaskRun, heq⟩ := List.mem_map.mp hmem
        exact hne taskRun htaskRun heq

/-- The unit of work that creates the run and its task runs. -/
theorem begins {run : WorkflowRun} {taskRuns : List TaskRun} {before after : MemoryState}
    (hunbegun : Unbegun runId before) (hrunId : run.runId = runId)
    (hpending : run.status = .pending)
    (hnew : ∀ taskRun ∈ taskRuns, taskRun.runId = runId ∧ taskRun.status = .pending)
    (hdistinct : (taskRuns.map TaskRun.taskId).Nodup)
    (hwritten : before.unitOfWork (.addWorkflowRun run :: taskRuns.map .addTaskRun) =
      .ok after) :
    (∃ posted, Posts runId before after posted) ∧
      Mirrors runId run (Table.ofList taskRuns) after := by
  have hsettles := settles_of_unitOfWork hwritten
  have hruns : (WriteCall.addWorkflowRun run :: taskRuns.map .addTaskRun).filterMap
      WriteCall.workflowRun? = [run] := by
    simp [WriteCall.workflowRun?, List.filterMap_map, Function.comp_def]
  have hsaved : (WriteCall.addWorkflowRun run :: taskRuns.map .addTaskRun).filterMap
      WriteCall.taskRun? = taskRuns := by
    simp [WriteCall.taskRun?, List.filterMap_cons, List.filterMap_map, Function.comp_def]
  have hevents : (WriteCall.addWorkflowRun run :: taskRuns.map .addTaskRun).filterMap
      WriteCall.event? = [] := by
    simp [WriteCall.event?, List.filterMap_cons, List.filterMap_map, Function.comp_def]
  obtain ⟨written, -, hadded⟩ := MemoryState.unitOfWork_cons_eq_ok.mp hwritten
  have hids := (nodup_of_addTaskRuns hadded).2
  have hrun : after.workflowRuns.find? runId = some run := by
    rw [hsettles.workflowRuns, hruns, List.foldl_cons, List.foldl_nil, ← hrunId]
    exact Table.find?_set_self _ _
  constructor
  · refine ⟨_, hsettles.posts ?_ ?_ ?_ ?_ ?_ ?_⟩
    · simp [hevents]
    · rw [hevents, hunbegun.run, MemoryState.runStatus, hrun, Option.map_some, hpending]
      exact .created
    · rw [hsaved]
      exact hids
    · rw [hsaved]
      exact fun taskRun hmem => (hnew taskRun hmem).1
    · rw [hsaved, hevents]
      intro taskRun hmem
      rw [hunbegun.taskRuns, (hnew taskRun hmem).2]
      exact .created
    · simp [hevents]
  · refine ⟨hrun, fun taskRun hmem => ?_⟩
    rw [Table.rows_ofList hdistinct] at hmem
    rw [← hsaved] at hids
    exact hsettles.taskRunOf hids (by rw [hsaved]; exact hmem) (hnew taskRun hmem).1

theorem WorkflowRun.start_eq_ok {run moved : WorkflowRun} {at_ : DateTime}
    (hmoved : run.start at_ = .ok moved) :
    moved.runId = run.runId ∧ run.status = .pending ∧ moved.status = .running := by
  unfold WorkflowRun.start at hmoved
  split at hmoved
  · next hpending =>
    cases hmoved
    exact ⟨rfl, hpending, rfl⟩
  · cases hmoved

theorem keeps_commit_begin {run : WorkflowRun} {taskRuns : List TaskRun}
    (hunbegun : Unbegun runId world.store) (hrunId : run.runId = runId)
    (hpending : run.status = .pending)
    (hnew : ∀ taskRun ∈ taskRuns, taskRun.runId = runId ∧ taskRun.status = .pending)
    (hdistinct : (taskRuns.map TaskRun.taskId).Nodup) :
    Keeps runId (fun _ after => Knows runId run (Table.ofList taskRuns) after)
      (commit (.addWorkflowRun run :: taskRuns.map .addTaskRun)) world := by
  apply keeps_commit
  intro drifted after hdrift hwritten
  exact begins (hunbegun.drift hdrift) hrunId hpending hnew hdistinct hwritten

theorem keeps_commit_start {run started : WorkflowRun} {taskRuns : TaskRuns} {at_ : DateTime}
    {event : RuntimeEvent} (hknows : Knows runId run taskRuns world)
    (hstarted : run.start at_ = .ok started) (htells : TellsRun runId .workflowStarted event) :
    Keeps runId (fun _ after => Knows runId started taskRuns after)
      (commit [.saveWorkflowRun started, .addEvent event]) world := by
  obtain ⟨hsame, hpending, hrunning⟩ := WorkflowRun.start_eq_ok hstarted
  apply keeps_commit_run hknows hsame htells.toLegible htells.taskRunId
  rw [htells.eventType, hpending, hrunning]
  exact .started

/-- The new run is RUNNING, and its task runs are known. -/
theorem keeps_beginRun (hunbegun : Unbegun runId world.store) (workflow : WorkflowDefinition)
    {planTaskIds : List TaskId} (hplan : planTaskIds.Nodup) (parameters : Objects) :
    Keeps runId (fun begun after => Knows runId begun.1 (Table.ofList begun.2) after)
      (beginRun workflow planTaskIds parameters) world := by
  apply keeps_ask_bind_of_unbegun hunbegun
  rintro _ world rfl hunbegun
  apply keeps_ask_bind_of_unbegun hunbegun
  intro createdAt world _ hunbegun
  apply keeps_ask_bind_of_unbegun hunbegun
  intro tasksCreatedAt world _ hunbegun
  apply (keeps_createTaskRuns hunbegun tasksCreatedAt planTaskIds).bind
  rintro taskRuns world ⟨hunbegun, hids, hnew⟩
  apply (keeps_commit_begin hunbegun rfl rfl hnew (hids ▸ hplan)).bind
  intro _ world hknows
  apply keeps_ask_bind hknows
  intro startedAt world hknows
  apply keeps_ofExcept_bind
  intro started hstarted
  apply (keeps_createWorkflowEvent .workflowStarted hknows 0 startedAt
    (by simp [Plain])).bind
  rintro event world ⟨htells, hknows⟩
  apply (keeps_commit_start hknows hstarted htells).bind
  intro _ world hknows
  exact Keeps.pure hknows

end Beginning

section Sequential

variable {runId : WorkflowRunId} {run : WorkflowRun} {taskRuns : TaskRuns} {world : World}

theorem keeps_succeedRun (hknows : Knows runId run taskRuns world) {payload : Objects}
    (hplain : Plain payload) (last : Nat) :
    Keeps runId (fun _ _ => True) (succeedRun run payload last) world := by
  apply keeps_ask_bind hknows
  intro finishedAt world hknows
  apply keeps_ofExcept_bind
  intro succeeded hsucceeded
  obtain ⟨hsame, hrunning, hstatus⟩ := WorkflowRun.finish_eq_ok hsucceeded
  apply (keeps_createWorkflowEvent .workflowSucceeded hknows last finishedAt
    hplain).bind
  rintro event world ⟨htells, hknows⟩
  have hmove : RunMove (some run.status) event.eventType.runMark.toList
      (some succeeded.status) := by
    rw [htells.eventType, hrunning, hstatus]
    exact .ended rfl
  apply (keeps_commit_run hknows hsame htells.toLegible htells.taskRunId hmove).bind
  intro _ world _
  exact keeps_query fun _ _ _ _ => trivial

theorem keeps_runTask {dispatch : Dispatch} (hplan : dispatch.planTaskIds.Nodup)
    (workflow : WorkflowDefinition) (taskId : TaskId) {progress : Progress}
    (hknows : Knows runId dispatch.run progress.taskRuns world) :
    Keeps runId (fun next after => Knows runId dispatch.run next.taskRuns after)
      (runTask dispatch workflow taskId progress) world := by
  rw [runTask]
  cases hfound : progress.taskRuns.find? taskId with
  | none => exact Keeps.raise _
  | some taskRun =>
      cases workflow.task? taskId with
      | none => exact Keeps.raise _
      | some task =>
          have hmem := Table.mem_of_find? hfound
          apply Keeps.through (fun _ after =>
            Knows runId dispatch.run progress.taskRuns after)
          · exact keeps_query fun _ _ hdrift _ => hknows.drift hdrift
          intro persisted world hknows
          cases persisted.find? taskId with
          | none => exact Keeps.raise _
          | some persistedRun =>
              apply keeps_ofExcept_bind
              intro isReady _
              apply keeps_require_bind
              intro _
              apply (keeps_readyTask hknows hmem (by simp [Plain]) progress.last).bind
              rintro ready world ⟨hready, hknows⟩
              apply (keeps_startTask hknows (mem_set_self _ _) 1 (Nat.le_refl 1)
                (by simp [Plain]) (progress.last + 1)).bind
              rintro ⟨started, attempt⟩ world ⟨hstarted, hknows⟩
              apply keeps_ofExcept_bind
              intro inputs _
              apply (keeps_executeWithRetry hplan (mem_set_self _ _) task inputs
                task.retryPolicy.maxAttempts attempt (progress.last + 2)
                (Mirrors.set_set hstarted hknows)).bind
              rintro finished world ⟨hfinished, hknows⟩
              exact Keeps.pure (Mirrors.set_set hfinished hknows)

theorem keeps_runTasks {dispatch : Dispatch} (hplan : dispatch.planTaskIds.Nodup)
    (workflow : WorkflowDefinition) (taskIds : List TaskId) {progress : Progress}
    (hknows : Knows runId dispatch.run progress.taskRuns world) :
    Keeps runId (fun last after => Knows runId dispatch.run last.taskRuns after)
      (runTasks dispatch workflow taskIds progress) world := by
  induction taskIds generalizing progress world with
  | nil => exact Keeps.pure hknows
  | cons taskId rest ih =>
      apply (keeps_runTask hplan workflow taskId hknows).bind
      intro next world hknows
      exact ih hknows

/-- The sequential runner keeps to the ledger. -/
theorem keeps_run (settings : RunnerSettings) (workflow : WorkflowDefinition)
    (supplied : Objects) (hunbegun : Unbegun runId world.store) :
    Keeps runId (fun _ _ => True) (Runner.run settings workflow supplied) world := by
  apply keeps_ofExcept_bind
  intro planTaskIds hplanned
  obtain ⟨_, _, hbuilt⟩ := bind_eq_ok hplanned
  have hplan := (ordered_of_buildPlan hbuilt).distinct
  apply keeps_ofExcept_bind
  intro parameters _
  apply keeps_ofExcept_bind
  intro _ _
  apply (keeps_beginRun hunbegun workflow hplan parameters).bind
  rintro ⟨run, taskRuns⟩ world hknows
  apply (keeps_runTasks hplan workflow planTaskIds hknows).bind
  intro progress world hknows
  apply keeps_require_bind
  intro _
  exact keeps_succeedRun hknows (by simp [Plain]) progress.last

end Sequential

end PyWorkflowKit.V1
