import PyWorkflowKit.V1.Ledger

/-!
# What a projector keeps of a log

The projector keeps the start of a run or a task run exactly while its span is open, and it
measures as many durations as the span yields.
-/

namespace PyWorkflowKit.V1

open PyWorkflowKit.Core PyWorkflowKit.Domain

namespace StartTimes

variable (times : StartTimes)

@[simp]
theorem contains_setdefault (id other : String) (at_ : DateTime) :
    (times.setdefault id at_).contains other = (decide (other = id) || times.contains other) := by
  by_cases hknown : times.contains id = true
  · rw [setdefault, if_pos hknown]
    by_cases hsame : other = id
    · simp [hsame, hknown]
    · simp [hsame]
  · rw [setdefault, if_neg hknown]
    by_cases hsame : other = id
    · subst hsame
      have hfound := Table.find?_set_self times (other, at_)
      simp only [Table.contains, hfound]
      simp
    · have hfound := Table.find?_set_of_ne times (id, at_) (Ne.symm hsame)
      simp only [Table.contains, hfound]
      simp [hsame]

@[simp]
theorem contains_drop (id other : String) :
    (times.drop id).contains other = (decide (other ≠ id) && times.contains other) := by
  have hfound := Table.find?_filter_key times (fun key => decide (key ≠ id)) other
  rw [Table.contains, drop, hfound]
  by_cases hsame : other = id
  · simp [hsame]
  · simp [hsame, Table.contains]

end StartTimes

/-- How many metrics of a name were recorded with the events of a correlation. -/
def recorded (name : String) (concerned : TelemetryCorrelation → Bool)
    (projections : List TelemetryProjection) : Nat :=
  ((projections.filter fun projection => concerned projection.event.correlation).flatMap
    TelemetryProjection.metrics).countP fun metric => metric.name = name

/-- The durations that were measured for a run. -/
def workflowDurations (runId : WorkflowRunId) (projections : List TelemetryProjection) : Nat :=
  recorded "pyworkflowkit.workflow.duration"
    (fun correlation => correlation.runId = runId.str) projections

/-- The durations that were measured for a task run. -/
def taskDurations (taskRunId : TaskRunId) (projections : List TelemetryProjection) : Nat :=
  recorded "pyworkflowkit.task.duration"
    (fun correlation => correlation.taskRunId = some taskRunId.str) projections

theorem recorded_cons (name : String) (concerned : TelemetryCorrelation → Bool)
    (projection : TelemetryProjection) (rest : List TelemetryProjection) :
    recorded name concerned (projection :: rest) =
      (if concerned projection.event.correlation then
        projection.metrics.countP fun metric => metric.name = name else 0) +
        recorded name concerned rest := by
  unfold recorded
  rw [List.filter_cons]
  split
  · rw [List.flatMap_cons, List.countP_append]
  · rw [Nat.zero_add]

namespace RuntimeTelemetryProjector

/-- The projections of some events in order, and the projector afterwards; the sink that
raises is passed over. -/
def projectAll (projector : RuntimeTelemetryProjector) :
    List RuntimeEvent → List TelemetryProjection × RuntimeTelemetryProjector
  | [] => ([], projector)
  | event :: rest =>
      let (result, next) := projector.project event
      let (others, last) := next.projectAll rest
      (match result with
        | .ok projection => projection :: others
        | .error _ => others, last)

section Tables

variable (times : StartTimes) (event : RuntimeEvent)

theorem contains_projectTask (taskRunId : TaskRunId) :
    (projectTask times event).2.contains taskRunId.str =
      match event.taskMark taskRunId with
      | none => times.contains taskRunId.str
      | some .starts => true
      | some .ends => false := by
  unfold RuntimeEvent.taskMark
  cases hid : event.taskRunId with
  | none =>
      simp only [projectTask, hid]
      cases htype : event.eventType <;> rfl
  | some id =>
      have hstr : taskRunId.str = id.str ↔ id = taskRunId :=
        ⟨fun heq => (TaskRunId.str_injective heq).symm, fun heq => by rw [heq]⟩
      by_cases hsame : id = taskRunId
      · subst hsame
        simp only [projectTask, hid]
        cases htype : event.eventType with
        | taskSucceeded | taskFailed | taskSkipped =>
            cases hfound : times.find? id.str with
            | none =>
                simp [RuntimeEventType.taskMark, RuntimeEventType.taskOutcome, hfound,
                  Table.contains]
            | some started =>
                simp [RuntimeEventType.taskMark, RuntimeEventType.taskOutcome, hfound]
        | _ => simp [RuntimeEventType.taskMark, RuntimeEventType.taskOutcome]
      · have hne : ¬ taskRunId.str = id.str := fun heq => hsame (hstr.mp heq)
        simp only [projectTask, hid]
        cases htype : event.eventType with
        | taskSucceeded | taskFailed | taskSkipped =>
            cases hfound : times.find? id.str with
            | none => simp [RuntimeEventType.taskOutcome, hfound, hsame]
            | some started => simp [RuntimeEventType.taskOutcome, hfound, hsame, hne]
        | _ => simp [RuntimeEventType.taskOutcome, hsame, hne]

theorem contains_projectWorkflow (runId : WorkflowRunId) :
    (projectWorkflow times event).2.contains runId.str =
      match event.runMark runId with
      | none => times.contains runId.str
      | some .starts => true
      | some .ends => false := by
  unfold RuntimeEvent.runMark
  have hstr : runId.str = event.runId.str ↔ event.runId = runId :=
    ⟨fun heq => (WorkflowRunId.str_injective heq).symm, fun heq => by rw [heq]⟩
  by_cases hsame : event.runId = runId
  · subst hsame
    simp only [projectWorkflow]
    cases htype : event.eventType with
    | workflowSucceeded | workflowFailed | workflowCancelled =>
        cases hfound : times.find? event.runId.str with
        | none =>
            simp [RuntimeEventType.runMark, RuntimeEventType.workflowOutcome, hfound,
              Table.contains]
        | some started =>
            simp [RuntimeEventType.runMark, RuntimeEventType.workflowOutcome]
    | _ => simp [RuntimeEventType.runMark, RuntimeEventType.workflowOutcome]
  · have hne : ¬ runId.str = event.runId.str := fun heq => hsame (hstr.mp heq)
    simp only [projectWorkflow]
    cases htype : event.eventType with
    | workflowSucceeded | workflowFailed | workflowCancelled =>
        cases hfound : times.find? event.runId.str with
        | none => simp [RuntimeEventType.workflowOutcome, hsame]
        | some started => simp [RuntimeEventType.workflowOutcome, hsame, hne]
    | _ => simp [RuntimeEventType.workflowOutcome, hsame, hne]

/-- An end that finds a start measures one duration; nothing else does. -/
theorem countP_projectTask {taskRunId : TaskRunId} (hid : event.taskRunId = some taskRunId) :
    ((projectTask times event).1.countP fun metric =>
        metric.name = "pyworkflowkit.task.duration") =
      match event.eventType.taskMark with
      | some .ends => if times.contains taskRunId.str then 1 else 0
      | _ => 0 := by
  simp only [projectTask, hid]
  cases htype : event.eventType with
  | taskSucceeded | taskFailed | taskSkipped =>
      cases hfound : times.find? taskRunId.str with
      | none =>
          simp [RuntimeEventType.taskMark, RuntimeEventType.taskOutcome, hfound, Table.contains,
            counterMetric]
      | some started =>
          simp [RuntimeEventType.taskMark, RuntimeEventType.taskOutcome, hfound, Table.contains,
            counterMetric, durationMetric]
  | _ => simp [RuntimeEventType.taskMark, RuntimeEventType.taskOutcome, counterMetric]

theorem countP_projectWorkflow :
    ((projectWorkflow times event).1.countP fun metric =>
        metric.name = "pyworkflowkit.workflow.duration") =
      match event.eventType.runMark with
      | some .ends => if times.contains event.runId.str then 1 else 0
      | _ => 0 := by
  simp only [projectWorkflow]
  cases htype : event.eventType with
  | workflowSucceeded | workflowFailed | workflowCancelled =>
      cases hfound : times.find? event.runId.str with
      | none =>
          simp [RuntimeEventType.runMark, RuntimeEventType.workflowOutcome, hfound,
            Table.contains, counterMetric]
      | some started =>
          simp [RuntimeEventType.runMark, RuntimeEventType.workflowOutcome, hfound,
            Table.contains, counterMetric, durationMetric]
  | _ => simp [RuntimeEventType.runMark, RuntimeEventType.workflowOutcome, counterMetric]

/-- The metrics of tasks are none of a workflow, and the other way round. -/
theorem countP_projectTask_workflow :
    ((projectTask times event).1.countP fun metric =>
      metric.name = "pyworkflowkit.workflow.duration") = 0 := by
  simp only [projectTask]
  cases htype : event.eventType with
  | taskSucceeded | taskFailed | taskSkipped =>
      cases hid : event.taskRunId with
      | none => simp [RuntimeEventType.taskOutcome, counterMetric]
      | some taskRunId =>
          cases hfound : times.find? taskRunId.str with
          | none => simp [RuntimeEventType.taskOutcome, hfound, counterMetric]
          | some started =>
              simp [RuntimeEventType.taskOutcome, hfound, counterMetric, durationMetric]
  | _ => simp [RuntimeEventType.taskOutcome, counterMetric]

theorem countP_projectWorkflow_task :
    ((projectWorkflow times event).1.countP fun metric =>
      metric.name = "pyworkflowkit.task.duration") = 0 := by
  simp only [projectWorkflow]
  cases htype : event.eventType with
  | workflowSucceeded | workflowFailed | workflowCancelled =>
      cases hfound : times.find? event.runId.str with
      | none => simp [RuntimeEventType.workflowOutcome, counterMetric]
      | some started =>
          simp [RuntimeEventType.workflowOutcome, counterMetric, durationMetric]
  | _ => simp [RuntimeEventType.workflowOutcome, counterMetric]

end Tables

/-- A legible event is projected. -/
theorem project_of_legible {event : RuntimeEvent}
    (hlegible : ∃ payload, redactMapping event.payload = .ok payload)
    (projector : RuntimeTelemetryProjector) :
    ∃ projection, projector.project event = (.ok projection,
        ⟨(projectWorkflow projector.workflowStartedAt event).2,
          (projectTask projector.taskStartedAt event).2⟩) ∧
      projection.event.correlation.runId = event.runId.str ∧
      projection.event.correlation.taskRunId = event.taskRunId.map TaskRunId.str ∧
      projection.metrics = counterMetric "pyworkflowkit.runtime.events" event
          [("event_type", event.eventType.value)] ::
        ((projectWorkflow projector.workflowStartedAt event).1 ++
          (projectTask projector.taskStartedAt event).1) := by
  obtain ⟨payload, hpayload⟩ := hlegible
  simp only [project, hpayload]
  exact ⟨_, rfl, rfl, rfl, rfl⟩

theorem legible_of_project {projector next : RuntimeTelemetryProjector} {event : RuntimeEvent}
    {projection : TelemetryProjection}
    (hproject : projector.project event = (.ok projection, next)) :
    ∃ payload, redactMapping event.payload = .ok payload := by
  cases hpayload : redactMapping event.payload with
  | ok payload => exact ⟨payload, rfl⟩
  | error raised => simp [project, hpayload] at hproject

/-- A table of starts is kept, and durations are measured, as the marks of the events say. -/
structure Watches (mark : RuntimeEvent → Option Mark) (keeps : RuntimeTelemetryProjector → Bool)
    (measured : List TelemetryProjection → Nat) : Prop where
  nothing : measured [] = 0
  turned : ∀ projector event, (∃ payload, redactMapping event.payload = .ok payload) →
    keeps (projector.project event).2 =
      match mark event with
      | none => keeps projector
      | some .starts => true
      | some .ends => false
  counted : ∀ projector event projection next others,
    projector.project event = (.ok projection, next) →
      measured (projection :: others) =
        (match mark event with
          | some .ends => if keeps projector then 1 else 0
          | _ => 0) + measured others

/-- What is kept and has been measured after some events. -/
theorem Watches.follow {mark : RuntimeEvent → Option Mark}
    {keeps : RuntimeTelemetryProjector → Bool} {measured : List TelemetryProjection → Nat}
    (hwatches : Watches mark keeps measured) {events : List RuntimeEvent}
    {projector : RuntimeTelemetryProjector} (span : Span)
    (hlegible : ∀ event ∈ events, ∃ payload, redactMapping event.payload = .ok payload)
    (hopen : keeps projector = span.isOpen) :
    keeps (projector.projectAll events).2 = (span.follow (events.filterMap mark)).isOpen ∧
      span.durations + measured (projector.projectAll events).1 =
        (span.follow (events.filterMap mark)).durations := by
  induction events generalizing projector span with
  | nil => exact ⟨hopen, by rw [projectAll, hwatches.nothing]; rfl⟩
  | cons event rest ih =>
      have hfirst := hlegible event List.mem_cons_self
      obtain ⟨projection, hproject, -⟩ := project_of_legible hfirst projector
      have hkept := hwatches.turned projector event hfirst
      have hmeasured := hwatches.counted projector event projection _
        ((projector.project event).2.projectAll rest).1 hproject
      have hall : projector.projectAll (event :: rest) =
          (projection :: ((projector.project event).2.projectAll rest).1,
            ((projector.project event).2.projectAll rest).2) := by
        rw [projectAll, hproject]
      have hrest := fun other hother => hlegible other (List.mem_cons_of_mem _ hother)
      rw [hall, hmeasured, hopen]
      rw [hopen] at hkept
      cases hmark : mark event with
      | none =>
          rw [hmark] at hkept
          rw [List.filterMap_cons_none hmark, Nat.zero_add]
          exact ih span hrest hkept
      | some mark =>
          have hadvanced : keeps (projector.project event).2 = (span.advance mark).isOpen := by
            rw [hkept, hmark]
            cases mark <;> rfl
          obtain ⟨hends, hcounted⟩ := ih (span.advance mark) hrest hadvanced
          rw [List.filterMap_cons_some hmark, Span.follow_cons]
          refine ⟨hends, ?_⟩
          rw [← hcounted, ← Nat.add_assoc]
          cases mark with
          | starts => rfl
          | ends => cases hspan : span.isOpen <;> simp [Span.advance, hspan]

/-- The projector watches the span of a run. -/
theorem watches_run (runId : WorkflowRunId) :
    Watches (RuntimeEvent.runMark runId)
      (fun projector => projector.workflowStartedAt.contains runId.str)
      (workflowDurations runId) where
  nothing := rfl
  turned projector event hlegible := by
    obtain ⟨projection, hproject, -⟩ := project_of_legible hlegible projector
    rw [hproject]
    exact contains_projectWorkflow projector.workflowStartedAt event runId
  counted projector event projection next others hproject := by
    obtain ⟨shown, hshown, hrunId, -, hmetrics⟩ :=
      project_of_legible (legible_of_project hproject) projector
    rw [hshown] at hproject
    cases hproject
    rw [workflowDurations, recorded_cons, hrunId, hmetrics]
    congr 1
    unfold RuntimeEvent.runMark
    by_cases hsame : event.runId = runId
    · subst hsame
      simp only [decide_true, if_true, List.countP_cons, List.countP_append,
        countP_projectTask_workflow, countP_projectWorkflow]
      simp [counterMetric]
    · have hne : event.runId.str ≠ runId.str := fun heq =>
        hsame (WorkflowRunId.str_injective heq)
      simp [hsame, hne]

/-- The projector watches the span of a task run. -/
theorem watches_task (taskRunId : TaskRunId) :
    Watches (RuntimeEvent.taskMark taskRunId)
      (fun projector => projector.taskStartedAt.contains taskRunId.str)
      (taskDurations taskRunId) where
  nothing := rfl
  turned projector event hlegible := by
    obtain ⟨projection, hproject, -⟩ := project_of_legible hlegible projector
    rw [hproject]
    exact contains_projectTask projector.taskStartedAt event taskRunId
  counted projector event projection next others hproject := by
    obtain ⟨shown, hshown, -, htaskRunId, hmetrics⟩ :=
      project_of_legible (legible_of_project hproject) projector
    rw [hshown] at hproject
    cases hproject
    rw [taskDurations, recorded_cons, htaskRunId, hmetrics]
    congr 1
    unfold RuntimeEvent.taskMark
    cases hid : event.taskRunId with
    | none => simp
    | some id =>
        by_cases hsame : id = taskRunId
        · subst hsame
          simp only [Option.map_some, decide_true, if_true, List.countP_cons,
            List.countP_append, countP_projectWorkflow_task,
            countP_projectTask projector.taskStartedAt event hid]
          simp [counterMetric]
        · have hne : id.str ≠ taskRunId.str := fun heq => hsame (TaskRunId.str_injective heq)
          simp [hsame, hne]

/-- After the events the projector keeps no start of the run or of these task runs, and the
run and every task run that has started has yielded one duration. -/
structure Balances (projector : RuntimeTelemetryProjector) (runId : WorkflowRunId)
    (taskRunIds : List TaskRunId) (events : List RuntimeEvent) : Prop where
  workflowCleared :
    (projector.projectAll events).2.workflowStartedAt.contains runId.str = false
  tasksCleared : ∀ taskRunId ∈ taskRunIds,
    (projector.projectAll events).2.taskStartedAt.contains taskRunId.str = false
  workflowMeasured : (∃ event ∈ events, event.eventType = .workflowStarted ∧
      event.runId = runId) →
    workflowDurations runId (projector.projectAll events).1 = 1
  tasksMeasured : ∀ taskRunId, (∃ event ∈ events, event.eventType = .taskStarted ∧
      event.taskRunId = some taskRunId) →
    taskDurations taskRunId (projector.projectAll events).1 = 1

/-- The projector keeps no start of the run or of these task runs. -/
structure Unaware (projector : RuntimeTelemetryProjector) (runId : WorkflowRunId)
    (taskRunIds : List TaskRunId) : Prop where
  workflow : projector.workflowStartedAt.contains runId.str = false
  tasks : ∀ taskRunId ∈ taskRunIds, projector.taskStartedAt.contains taskRunId.str = false

theorem starts_mem_runMarks {runId : WorkflowRunId} {events : List RuntimeEvent} :
    Mark.starts ∈ events.filterMap (RuntimeEvent.runMark runId) ↔
      ∃ event ∈ events, event.eventType = .workflowStarted ∧ event.runId = runId := by
  rw [List.mem_filterMap]
  apply exists_congr
  intro event
  apply and_congr_right
  intro _
  unfold RuntimeEvent.runMark RuntimeEventType.runMark
  cases event.eventType <;> simp [RuntimeEventType.workflowOutcome]

theorem starts_mem_taskMarks {taskRunId : TaskRunId} {events : List RuntimeEvent} :
    Mark.starts ∈ events.filterMap (RuntimeEvent.taskMark taskRunId) ↔
      ∃ event ∈ events, event.eventType = .taskStarted ∧ event.taskRunId = some taskRunId := by
  rw [List.mem_filterMap]
  apply exists_congr
  intro event
  apply and_congr_right
  intro _
  unfold RuntimeEvent.taskMark RuntimeEventType.taskMark
  cases event.eventType <;> simp [RuntimeEventType.taskOutcome]

/-- The bookkeeping of a projector is balanced exactly when the spans are. -/
theorem balances_iff {projector : RuntimeTelemetryProjector} {runId : WorkflowRunId}
    {taskRunIds : List TaskRunId} {events : List RuntimeEvent}
    (hunaware : projector.Unaware runId taskRunIds)
    (hlegible : ∀ event ∈ events, ∃ payload, redactMapping event.payload = .ok payload)
    (hknown : ∀ taskRunId, .starts ∈ events.filterMap (RuntimeEvent.taskMark taskRunId) →
      taskRunId ∈ taskRunIds) :
    projector.Balances runId taskRunIds events ↔
      (Span.idle.follow (events.filterMap (RuntimeEvent.runMark runId))).Balanced ∧
        ∀ taskRunId ∈ taskRunIds,
          (Span.idle.follow (events.filterMap (RuntimeEvent.taskMark taskRunId))).Balanced := by
  obtain ⟨hrunKept, hrunMeasured⟩ := (watches_run runId).follow .idle hlegible
    hunaware.workflow
  have htasks := fun taskRunId hmem => (watches_task taskRunId).follow .idle hlegible
    (hunaware.tasks taskRunId hmem)
  have hidle : Span.idle.durations = 0 := rfl
  rw [hidle, Nat.zero_add] at hrunMeasured
  constructor
  · rintro ⟨hworkflow, hcleared, hmeasured, htasksMeasured⟩
    constructor
    · refine ⟨hrunKept ▸ hworkflow, fun hstarted => ?_⟩
      rw [← hrunMeasured]
      rw [Span.started_follow] at hstarted
      exact hmeasured (starts_mem_runMarks.mp (hstarted.resolve_left Bool.false_ne_true))
    · intro taskRunId hmem
      obtain ⟨hkept, hcounted⟩ := htasks taskRunId hmem
      rw [hidle, Nat.zero_add] at hcounted
      refine ⟨hkept ▸ hcleared taskRunId hmem, fun hstarted => ?_⟩
      rw [← hcounted]
      rw [Span.started_follow] at hstarted
      exact htasksMeasured taskRunId
        (starts_mem_taskMarks.mp (hstarted.resolve_left Bool.false_ne_true))
  · rintro ⟨hworkflow, hbalanced⟩
    constructor
    · rw [hrunKept, hworkflow.closed]
    · intro taskRunId hmem
      rw [(htasks taskRunId hmem).1, (hbalanced taskRunId hmem).closed]
    · intro hstarted
      rw [hrunMeasured]
      apply hworkflow.measured
      rw [Span.started_follow]
      exact Or.inr (starts_mem_runMarks.mpr hstarted)
    · intro taskRunId hstarted
      have hmarks := starts_mem_taskMarks.mpr hstarted
      obtain ⟨-, hcounted⟩ := htasks taskRunId (hknown taskRunId hmarks)
      rw [hidle, Nat.zero_add] at hcounted
      rw [hcounted]
      apply (hbalanced taskRunId (hknown taskRunId hmarks)).measured
      rw [Span.started_follow]
      exact Or.inr hmarks

end RuntimeTelemetryProjector

end PyWorkflowKit.V1
