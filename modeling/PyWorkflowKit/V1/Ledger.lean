import PyWorkflowKit.Core.Spans
import PyWorkflowKit.V1.Telemetry
import PyWorkflowKit.V1.Writes

/-!
# The ledger of a run

What the store holds of one run: the run, its task runs and its events.  One unit of work
moves each status at most once, and posts the events that belong to the move; the moves that
cancel a task run post nothing.
-/

namespace PyWorkflowKit.V1

open PyWorkflowKit.Core PyWorkflowKit.Domain

/-- What an event of this type does to the span of its run. -/
def RuntimeEventType.runMark (eventType : RuntimeEventType) : Option Mark :=
  if eventType = .workflowStarted then some .starts
  else eventType.workflowOutcome.map fun _ => .ends

/-- What an event of this type does to the span of its task run. -/
def RuntimeEventType.taskMark (eventType : RuntimeEventType) : Option Mark :=
  if eventType = .taskStarted then some .starts
  else eventType.taskOutcome.map fun _ => .ends

/-- What an event does to the span of a run. -/
def RuntimeEvent.runMark (runId : WorkflowRunId) (event : RuntimeEvent) : Option Mark :=
  if event.runId = runId then event.eventType.runMark else none

/-- What an event does to the span of a task run. -/
def RuntimeEvent.taskMark (taskRunId : TaskRunId) (event : RuntimeEvent) : Option Mark :=
  if event.taskRunId = some taskRunId then event.eventType.taskMark else none

/-- How one unit of work moves the status of a run, with the marks of the posted events. -/
inductive RunMove : Option WorkflowRunStatus → List Mark → Option WorkflowRunStatus → Prop
  | stays (status : Option WorkflowRunStatus) : RunMove status [] status
  | created : RunMove none [] (some .pending)
  | started : RunMove (some .pending) [.starts] (some .running)
  | ended {status : WorkflowRunStatus} (hterminal : status.isTerminal = true) :
      RunMove (some .running) [.ends] (some status)

/-- How one unit of work moves the status of a task run, with the marks of the posted events. -/
inductive TaskMove : Option TaskRunStatus → List Mark → Option TaskRunStatus → Prop
  | stays (status : Option TaskRunStatus) : TaskMove status [] status
  | created : TaskMove none [] (some .pending)
  | readied : TaskMove (some .pending) [] (some .ready)
  | started : TaskMove (some .ready) [.starts] (some .running)
  | succeeded : TaskMove (some .running) [.ends] (some .succeeded)
  | failed : TaskMove (some .running) [.ends] (some .failed)
  | skipped {status : TaskRunStatus} (hwaits : status = .pending ∨ status = .ready) :
      TaskMove (some status) [.ends] (some .skipped)
  | withdrawn {status : TaskRunStatus} (hwaits : status = .pending ∨ status = .ready) :
      TaskMove (some status) [] (some .cancelled)
  | abandoned : TaskMove (some .running) [] (some .cancelled)

/-- The span of a run in this status. -/
def RunTracks : Option WorkflowRunStatus → Span → Prop
  | none, span | some .pending, span => span = .idle
  | some .running, span => span = .underway
  | some .succeeded, span | some .failed, span | some .cancelled, span => span = .finished

/-- The span of a task run in this status, which was or was not cancelled while RUNNING. -/
def TaskTracks (abandoned : Prop) : Option TaskRunStatus → Span → Prop
  | none, span | some .pending, span | some .ready, span | some .skipped, span =>
      span = .idle ∧ ¬abandoned
  | some .running, span => span = .underway ∧ ¬abandoned
  | some .succeeded, span | some .failed, span => span = .finished ∧ ¬abandoned
  | some .cancelled, span =>
      (span = .idle ∧ ¬abandoned) ∨ (span = .underway ∧ abandoned)

theorem RunMove.tracks {before after : Option WorkflowRunStatus} {marks : List Mark} {span : Span}
    (hmove : RunMove before marks after) (htracks : RunTracks before span) :
    RunTracks after (span.follow marks) := by
  cases hmove with
  | stays => exact htracks
  | created =>
      cases htracks
      rfl
  | started =>
      cases htracks
      rfl
  | ended hterminal =>
      rename_i status
      cases htracks
      cases status with
      | pending | running => cases hterminal
      | succeeded | failed | cancelled => rfl

theorem TaskMove.tracks {abandoned : Prop} {before after : Option TaskRunStatus}
    {marks : List Mark} {span : Span} (hmove : TaskMove before marks after)
    (htracks : TaskTracks abandoned before span) :
    TaskTracks (abandoned ∨ (before = some .running ∧ after = some .cancelled)) after
      (span.follow marks) := by
  cases hmove with
  | stays =>
      have hnever : ¬(before = some .running ∧ before = some .cancelled) := by
        rintro ⟨hrunning, hcancelled⟩
        rw [hrunning] at hcancelled
        cases hcancelled
      rwa [or_iff_left_of_imp fun h => absurd h hnever] at *
  | created | readied | started | succeeded | failed =>
      obtain ⟨rfl, hkept⟩ := htracks
      exact ⟨rfl, by simp [hkept]⟩
  | abandoned =>
      obtain ⟨rfl, -⟩ := htracks
      exact Or.inr ⟨rfl, Or.inr ⟨rfl, rfl⟩⟩
  | skipped hwaits =>
      rcases hwaits with rfl | rfl <;>
      · obtain ⟨rfl, hkept⟩ := htracks
        exact ⟨rfl, by simp [hkept]⟩
  | withdrawn hwaits =>
      rcases hwaits with rfl | rfl <;>
      · obtain ⟨rfl, hkept⟩ := htracks
        exact Or.inl ⟨rfl, by simp [hkept]⟩

/-- The span of a run that has ended is balanced. -/
theorem RunTracks.balanced {status : WorkflowRunStatus} {span : Span}
    (htracks : RunTracks (some status) span) (hterminal : status.isTerminal = true) :
    span.Balanced := by
  cases status with
  | pending | running => cases hterminal
  | succeeded | failed | cancelled =>
      cases htracks
      exact Span.balanced_finished

/-- The span of a task run is balanced unless the task run is RUNNING or was cancelled while
it was. -/
theorem TaskTracks.balanced_iff {abandoned : Prop} {status : Option TaskRunStatus} {span : Span}
    (htracks : TaskTracks abandoned status span) :
    span.Balanced ↔ ¬abandoned ∧ status ≠ some .running := by
  have hopen : ¬Span.underway.Balanced := Span.not_balanced_of_open rfl
  cases status with
  | none =>
      obtain ⟨rfl, hkept⟩ := htracks
      simp [Span.balanced_idle, hkept]
  | some status =>
      cases status with
      | pending | ready | skipped =>
          obtain ⟨rfl, hkept⟩ := htracks
          simp [Span.balanced_idle, hkept]
      | running =>
          obtain ⟨rfl, hkept⟩ := htracks
          simp [hopen]
      | succeeded | failed =>
          obtain ⟨rfl, hkept⟩ := htracks
          simp [Span.balanced_finished, hkept]
      | cancelled =>
          rcases htracks with ⟨rfl, hkept⟩ | ⟨rfl, habandoned⟩
          · simp [Span.balanced_idle, hkept]
          · simp [hopen, habandoned]

namespace MemoryState

variable (runId : WorkflowRunId) (store : MemoryState)

/-- The task run of the run with this identity. -/
def taskRunOf (taskRunId : TaskRunId) : Option TaskRun :=
  (store.taskRuns.find? taskRunId).filter fun taskRun => taskRun.runId = runId

def runStatus : Option WorkflowRunStatus := (store.workflowRuns.find? runId).map WorkflowRun.status

def taskStatus (taskRunId : TaskRunId) : Option TaskRunStatus :=
  (store.taskRunOf runId taskRunId).map TaskRun.status

/-- The events of the run in the order in which they were added. -/
def log : List RuntimeEvent := store.events.rows.filter fun event => event.runId = runId

end MemoryState

/-- The stores hold the same of a run. -/
structure SameRun (runId : WorkflowRunId) (before after : MemoryState) : Prop where
  run : after.workflowRuns.find? runId = before.workflowRuns.find? runId
  taskRuns : ∀ taskRunId, after.taskRunOf runId taskRunId = before.taskRunOf runId taskRunId
  log : after.log runId = before.log runId

theorem SameRun.refl (runId : WorkflowRunId) (store : MemoryState) :
    SameRun runId store store := ⟨rfl, fun _ => rfl, rfl⟩

/-- A unit of work posts these events of a run and makes the moves that belong to them. -/
structure Posts (runId : WorkflowRunId) (before after : MemoryState)
    (posted : List RuntimeEvent) : Prop where
  log : after.log runId = before.log runId ++ posted
  legible : ∀ event ∈ posted, ∃ payload, redactMapping event.payload = .ok payload
  run : RunMove (before.runStatus runId)
    (posted.filterMap (RuntimeEvent.runMark runId)) (after.runStatus runId)
  tasks : ∀ taskRunId, TaskMove (before.taskStatus runId taskRunId)
    (posted.filterMap (RuntimeEvent.taskMark taskRunId)) (after.taskStatus runId taskRunId)

theorem Posts.refl (runId : WorkflowRunId) (store : MemoryState) : Posts runId store store [] :=
  ⟨(List.append_nil _).symm, by simp, .stays _, fun _ => .stays _⟩

section Units

/-- The task run that a write call assigns. -/
def WriteCall.taskRun? : WriteCall → Option TaskRun
  | .addTaskRun taskRun | .saveTaskRun taskRun => some taskRun
  | _ => none

/-- The workflow run that a write call assigns. -/
def WriteCall.workflowRun? : WriteCall → Option WorkflowRun
  | .addWorkflowRun run | .saveWorkflowRun run => some run
  | _ => none

/-- The event that a write call adds. -/
def WriteCall.event? : WriteCall → Option RuntimeEvent
  | .addEvent event => some event
  | _ => none

/-- What a unit of work leaves in the tables of a ledger. -/
structure Settles (calls : List WriteCall) (before after : MemoryState) : Prop where
  workflowRuns : after.workflowRuns =
    (calls.filterMap WriteCall.workflowRun?).foldl Table.set before.workflowRuns
  taskRuns : after.taskRuns =
    (calls.filterMap WriteCall.taskRun?).foldl Table.set before.taskRuns
  events : after.events.rows = before.events.rows ++ calls.filterMap WriteCall.event?

theorem settles_of_write {call : WriteCall} {before after : MemoryState}
    (hwrite : before.write call = .ok after) : Settles [call] before after := by
  cases call with
  | addWorkflowRun run =>
      obtain ⟨-, rfl⟩ := (MemoryState.write_addWorkflowRun run).mp hwrite
      exact ⟨rfl, rfl, (List.append_nil _).symm⟩
  | saveWorkflowRun run =>
      obtain ⟨-, rfl⟩ := (MemoryState.write_saveWorkflowRun run).mp hwrite
      exact ⟨rfl, rfl, (List.append_nil _).symm⟩
  | addTaskRun taskRun =>
      obtain ⟨-, -, rfl⟩ := (MemoryState.write_addTaskRun taskRun).mp hwrite
      exact ⟨rfl, rfl, (List.append_nil _).symm⟩
  | saveTaskRun taskRun =>
      obtain ⟨-, rfl⟩ := (MemoryState.write_saveTaskRun taskRun).mp hwrite
      exact ⟨rfl, rfl, (List.append_nil _).symm⟩
  | addTaskAttempt attempt =>
      obtain ⟨-, -, -, rfl⟩ := (MemoryState.write_addTaskAttempt attempt).mp hwrite
      exact ⟨rfl, rfl, (List.append_nil _).symm⟩
  | saveTaskAttempt attempt =>
      obtain ⟨-, rfl⟩ := (MemoryState.write_saveTaskAttempt attempt).mp hwrite
      exact ⟨rfl, rfl, (List.append_nil _).symm⟩
  | addEvent event =>
      obtain ⟨habsent, -, -, rfl⟩ := (MemoryState.write_addEvent event).mp hwrite
      refine ⟨rfl, rfl, Table.rows_set_of_absent _ ?_⟩
      simpa [Table.contains] using habsent
  | addTaskOutputCheckpoint taskRunId output =>
      obtain ⟨-, -, normalized, -, rfl⟩ :=
        (MemoryState.write_addTaskOutputCheckpoint taskRunId output).mp hwrite
      exact ⟨rfl, rfl, (List.append_nil _).symm⟩
  | addArtifact taskRunId artifact =>
      obtain ⟨-, -, rfl⟩ := (MemoryState.write_addArtifact taskRunId artifact).mp hwrite
      exact ⟨rfl, rfl, (List.append_nil _).symm⟩
  | addExternalRunRef taskRunId externalRef =>
      obtain ⟨-, -, rfl⟩ := (MemoryState.write_addExternalRunRef taskRunId externalRef).mp hwrite
      exact ⟨rfl, rfl, (List.append_nil _).symm⟩

theorem Settles.append {first second : List WriteCall} {before between after : MemoryState}
    (hfirst : Settles first before between) (hsecond : Settles second between after) :
    Settles (first ++ second) before after := by
  constructor
  · rw [List.filterMap_append, List.foldl_append, ← hfirst.workflowRuns]
    exact hsecond.workflowRuns
  · rw [List.filterMap_append, List.foldl_append, ← hfirst.taskRuns]
    exact hsecond.taskRuns
  · rw [List.filterMap_append, ← List.append_assoc, ← hfirst.events]
    exact hsecond.events

theorem settles_of_unitOfWork {calls : List WriteCall} {before after : MemoryState}
    (hwritten : before.unitOfWork calls = .ok after) : Settles calls before after := by
  induction calls generalizing before with
  | nil =>
      cases hwritten
      exact ⟨rfl, rfl, (List.append_nil _).symm⟩
  | cons call rest ih =>
      obtain ⟨written, hwrite, hrest⟩ := MemoryState.unitOfWork_cons_eq_ok.mp hwritten
      exact (settles_of_write hwrite).append (ih hrest)

end Units

/-- An event of a run whose payload can be redacted. -/
structure Legible (runId : WorkflowRunId) (event : RuntimeEvent) : Prop where
  runId : event.runId = runId
  payload : ∃ payload, redactMapping event.payload = .ok payload

/-- An event of a task run. -/
structure Concerns (runId : WorkflowRunId) (taskRunId : TaskRunId) (event : RuntimeEvent) :
    Prop extends Legible runId event where
  taskRunId : event.taskRunId = some taskRunId
  runMark : event.eventType.runMark = none

namespace Settles

variable {runId : WorkflowRunId} {calls : List WriteCall} {before after : MemoryState}

theorem log (hsettles : Settles calls before after)
    (hlegible : ∀ event ∈ calls.filterMap WriteCall.event?, Legible runId event) :
    after.log runId = before.log runId ++ calls.filterMap WriteCall.event? := by
  rw [MemoryState.log, hsettles.events, List.filter_append, MemoryState.log]
  congr 1
  apply List.filter_eq_self.mpr
  intro event hevent
  exact decide_eq_true (hlegible event hevent).runId

theorem taskRunOf (hsettles : Settles calls before after)
    (hnodup : ((calls.filterMap WriteCall.taskRun?).map TaskRun.taskRunId).Nodup)
    {taskRun : TaskRun} (hmem : taskRun ∈ calls.filterMap WriteCall.taskRun?)
    (hof : taskRun.runId = runId) : after.taskRunOf runId taskRun.taskRunId = some taskRun := by
  rw [MemoryState.taskRunOf, hsettles.taskRuns, Table.find?_foldl_set hnodup _ hmem]
  simp [hof]

theorem taskRunOf_of_notMem (hsettles : Settles calls before after) {taskRunId : TaskRunId}
    (habsent : taskRunId ∉ (calls.filterMap WriteCall.taskRun?).map TaskRun.taskRunId) :
    after.taskRunOf runId taskRunId = before.taskRunOf runId taskRunId := by
  rw [MemoryState.taskRunOf, hsettles.taskRuns, Table.find?_foldl_set_of_notMem _ _ habsent,
    MemoryState.taskRunOf]

theorem workflowRun_of_nil (hsettles : Settles calls before after)
    (hruns : calls.filterMap WriteCall.workflowRun? = []) :
    after.workflowRuns = before.workflowRuns := by
  rw [hsettles.workflowRuns, hruns, List.foldl_nil]

/-- A unit of work posts its events when each status moves as the events about it say. -/
theorem posts (hsettles : Settles calls before after)
    (hlegible : ∀ event ∈ calls.filterMap WriteCall.event?, Legible runId event)
    (hrun : RunMove (before.runStatus runId)
      ((calls.filterMap WriteCall.event?).filterMap (RuntimeEvent.runMark runId))
      (after.runStatus runId))
    (hnodup : ((calls.filterMap WriteCall.taskRun?).map TaskRun.taskRunId).Nodup)
    (hof : ∀ taskRun ∈ calls.filterMap WriteCall.taskRun?, taskRun.runId = runId)
    (hmoves : ∀ taskRun ∈ calls.filterMap WriteCall.taskRun?,
      TaskMove (before.taskStatus runId taskRun.taskRunId)
        ((calls.filterMap WriteCall.event?).filterMap
          (RuntimeEvent.taskMark taskRun.taskRunId)) (some taskRun.status))
    (hothers : ∀ taskRunId, taskRunId ∉
        (calls.filterMap WriteCall.taskRun?).map TaskRun.taskRunId →
      (calls.filterMap WriteCall.event?).filterMap (RuntimeEvent.taskMark taskRunId) = []) :
    Posts runId before after (calls.filterMap WriteCall.event?) where
  log := hsettles.log hlegible
  legible event hevent := (hlegible event hevent).payload
  run := hrun
  tasks taskRunId := by
    by_cases hmem : taskRunId ∈ (calls.filterMap WriteCall.taskRun?).map TaskRun.taskRunId
    · obtain ⟨taskRun, htaskRun, rfl⟩ := List.mem_map.mp hmem
      have hafter : after.taskStatus runId taskRun.taskRunId = some taskRun.status := by
        rw [MemoryState.taskStatus, hsettles.taskRunOf hnodup htaskRun (hof taskRun htaskRun)]
        rfl
      rw [hafter]
      exact hmoves taskRun htaskRun
    · have hafter : after.taskStatus runId taskRunId = before.taskStatus runId taskRunId := by
        rw [MemoryState.taskStatus, hsettles.taskRunOf_of_notMem hmem, MemoryState.taskStatus]
      rw [hafter, hothers taskRunId hmem]
      exact .stays _

theorem runMove_of_nil (hsettles : Settles calls before after)
    (hruns : calls.filterMap WriteCall.workflowRun? = [])
    (hmarks : ∀ event ∈ calls.filterMap WriteCall.event?, event.eventType.runMark = none) :
    RunMove (before.runStatus runId)
      ((calls.filterMap WriteCall.event?).filterMap (RuntimeEvent.runMark runId))
      (after.runStatus runId) := by
  have hnone : (calls.filterMap WriteCall.event?).filterMap (RuntimeEvent.runMark runId) = [] := by
    apply List.filterMap_eq_nil_iff.mpr
    intro event hevent
    rw [RuntimeEvent.runMark, hmarks event hevent, ite_self]
  rw [hnone, MemoryState.runStatus, MemoryState.runStatus, hsettles.workflowRun_of_nil hruns]
  exact .stays _

/-- A unit of work that moves one task run. -/
theorem posts_task (hsettles : Settles calls before after) {taskRun moved : TaskRun}
    (hruns : calls.filterMap WriteCall.workflowRun? = [])
    (hsaved : calls.filterMap WriteCall.taskRun? = [moved])
    (hstored : before.taskRunOf runId taskRun.taskRunId = some taskRun)
    (hid : moved.taskRunId = taskRun.taskRunId) (hof : moved.runId = runId)
    (hconcerns : ∀ event ∈ calls.filterMap WriteCall.event?,
      Concerns runId taskRun.taskRunId event)
    (hmove : TaskMove (some taskRun.status)
      ((calls.filterMap WriteCall.event?).filterMap fun event => event.eventType.taskMark)
      (some moved.status)) :
    Posts runId before after (calls.filterMap WriteCall.event?) := by
  apply hsettles.posts fun event hevent => (hconcerns event hevent).toLegible
  · exact hsettles.runMove_of_nil hruns fun event hevent => (hconcerns event hevent).runMark
  · rw [hsaved]
    exact List.nodup_singleton _
  · intro saved hmem
    rw [hsaved, List.mem_singleton] at hmem
    rw [hmem, hof]
  · intro saved hmem
    rw [hsaved, List.mem_singleton] at hmem
    rw [hmem, hid, MemoryState.taskStatus, hstored]
    have hmarks : (calls.filterMap WriteCall.event?).filterMap
        (RuntimeEvent.taskMark taskRun.taskRunId) =
        (calls.filterMap WriteCall.event?).filterMap fun event => event.eventType.taskMark := by
      apply List.filterMap_congr
      intro event hevent
      rw [RuntimeEvent.taskMark, if_pos (hconcerns event hevent).taskRunId]
    rw [hmarks]
    exact hmove
  · intro taskRunId habsent
    rw [hsaved, List.map_singleton, List.mem_singleton, hid] at habsent
    apply List.filterMap_eq_nil_iff.mpr
    intro event hevent
    rw [RuntimeEvent.taskMark, if_neg]
    rw [(hconcerns event hevent).taskRunId]
    exact fun heq => habsent (Option.some.inj heq).symm

/-- A unit of work that moves no status. -/
theorem posts_nothing (hsettles : Settles calls before after)
    (hruns : calls.filterMap WriteCall.workflowRun? = [])
    (hsaved : calls.filterMap WriteCall.taskRun? = [])
    (hlegible : ∀ event ∈ calls.filterMap WriteCall.event?, Legible runId event ∧
      event.eventType.runMark = none ∧ event.eventType.taskMark = none) :
    Posts runId before after (calls.filterMap WriteCall.event?) := by
  apply hsettles.posts fun event hevent => (hlegible event hevent).1
  · exact hsettles.runMove_of_nil hruns fun event hevent => (hlegible event hevent).2.1
  · rw [hsaved]
    exact List.nodup_nil
  · simp [hsaved]
  · simp [hsaved]
  · intro taskRunId _
    apply List.filterMap_eq_nil_iff.mpr
    intro event hevent
    rw [RuntimeEvent.taskMark, (hlegible event hevent).2.2, ite_self]

/-- A unit of work that moves the run with one event. -/
theorem posts_run (hsettles : Settles calls before after) {run moved : WorkflowRun}
    {event : RuntimeEvent} (hruns : calls.filterMap WriteCall.workflowRun? = [moved])
    (hsaved : calls.filterMap WriteCall.taskRun? = [])
    (hstored : before.workflowRuns.find? runId = some run) (hid : moved.runId = runId)
    (hevents : calls.filterMap WriteCall.event? = [event]) (hlegible : Legible runId event)
    (hworkflow : event.taskRunId = none)
    (hmove : RunMove (some run.status) event.eventType.runMark.toList (some moved.status)) :
    Posts runId before after (calls.filterMap WriteCall.event?) := by
  have hmarks : [event].filterMap (RuntimeEvent.runMark runId) =
      event.eventType.runMark.toList := by
    rw [List.filterMap_cons, RuntimeEvent.runMark, if_pos hlegible.runId]
    cases event.eventType.runMark <;> rfl
  apply hsettles.posts
  · rw [hevents]
    intro other hother
    rwa [List.mem_singleton.mp hother]
  · rw [hevents, hmarks, MemoryState.runStatus, hstored, MemoryState.runStatus,
      hsettles.workflowRuns, hruns, List.foldl_cons, List.foldl_nil, ← hid,
      Table.find?_set_self]
    exact hmove
  · rw [hsaved]
    exact List.nodup_nil
  · simp [hsaved]
  · simp [hsaved]
  · intro taskRunId _
    rw [hevents, List.filterMap_cons, RuntimeEvent.taskMark, if_neg (by simp [hworkflow])]
    rfl

end Settles

end PyWorkflowKit.V1
