import PyWorkflowKit.Domain.Number
import PyWorkflowKit.V1.Redaction

/-!
# Telemetry projections

Committed runtime events as backend-neutral telemetry records.  The projector keeps the start
of every workflow and task until a terminal event takes it back.
-/

namespace PyWorkflowKit.V1

open PyWorkflowKit.Core PyWorkflowKit.Domain

inductive TelemetryMetricKind where
  | counter
  | histogram
deriving DecidableEq, Repr

/-- Stable identities used to correlate one telemetry event. -/
structure TelemetryCorrelation where
  eventId : String
  runId : String
  taskRunId : Option String
  taskId : Option String
  attemptNumber : Option Nat
  eventSequence : Option Nat
deriving DecidableEq

/-- Portable event projection. -/
structure TelemetryEvent where
  name : String
  occurredAt : DateTime
  correlation : TelemetryCorrelation
  attributes : List (String × String)
  payload : Objects

/-- One backend-neutral metric observation. -/
structure TelemetryMetric where
  name : String
  kind : TelemetryMetricKind
  value : PyFloat
  occurredAt : DateTime
  unit : String
  attributes : List (String × String)
deriving DecidableEq

/-- One projected telemetry event and its generic runtime metrics. -/
structure TelemetryProjection where
  event : TelemetryEvent
  metrics : List TelemetryMetric

/-- The outcome of a workflow that an event ends: `_WORKFLOW_TERMINAL`. -/
def RuntimeEventType.workflowOutcome : RuntimeEventType → Option String
  | workflowSucceeded => some "succeeded"
  | workflowFailed => some "failed"
  | workflowCancelled => some "cancelled"
  | _ => none

/-- The outcome of a task that an event ends: `_TASK_TERMINAL`. -/
def RuntimeEventType.taskOutcome : RuntimeEventType → Option String
  | taskSucceeded => some "succeeded"
  | taskFailed => some "failed"
  | taskSkipped => some "skipped"
  | _ => none

/-- `_counter`. -/
def counterMetric (name : String) (event : RuntimeEvent) (attributes : List (String × String)) :
    TelemetryMetric where
  name := name
  kind := .counter
  value := .finite 1
  occurredAt := event.occurredAt
  unit := "1"
  attributes := attributes

/-- `_duration`. -/
def durationMetric (name : String) (startedAt : DateTime) (event : RuntimeEvent)
    (attributes : List (String × String)) : TelemetryMetric where
  name := name
  kind := .histogram
  value := (totalSeconds (event.occurredAt.instant.micros -
    startedAt.instant.micros)).atLeastZero
  occurredAt := event.occurredAt
  unit := "s"
  attributes := attributes

/-- When each identity started. -/
abbrev StartTimes := Table (Prod.fst : String × DateTime → String)

namespace StartTimes

/-- `setdefault`. -/
def setdefault (times : StartTimes) (id : String) (at_ : DateTime) : StartTimes :=
  if times.contains id then times else times.set (id, at_)

/-- `pop(id, None)`: what is left. -/
def drop (times : StartTimes) (id : String) : StartTimes :=
  times.filter fun entry => entry.1 ≠ id

end StartTimes

/-- `RuntimeTelemetryProjector`. -/
structure RuntimeTelemetryProjector where
  workflowStartedAt : StartTimes
  taskStartedAt : StartTimes

namespace RuntimeTelemetryProjector

/-- `RuntimeTelemetryProjector.__init__`. -/
def empty : RuntimeTelemetryProjector := ⟨.empty, .empty⟩

/-- The workflow metrics of an event. -/
def projectWorkflow (times : StartTimes) (event : RuntimeEvent) :
    List TelemetryMetric × StartTimes :=
  let runId := event.runId.str
  if event.eventType = .workflowStarted then
    ([counterMetric "pyworkflowkit.workflow.started" event []],
      times.setdefault runId event.occurredAt)
  else
    match event.eventType.workflowOutcome with
    | none => ([], times)
    | some outcome =>
        let attributes := [("outcome", outcome)]
        let completed := counterMetric "pyworkflowkit.workflow.completed" event attributes
        match times.find? runId with
        | none => ([completed], times)
        | some started =>
            ([completed, durationMetric "pyworkflowkit.workflow.duration" started.2 event
              attributes], times.drop runId)

/-- The task metrics of an event. -/
def projectTask (times : StartTimes) (event : RuntimeEvent) :
    List TelemetryMetric × StartTimes :=
  let taskRunId := event.taskRunId.map TaskRunId.str
  if event.eventType = .taskStarted then
    ([counterMetric "pyworkflowkit.task.started" event []],
      match taskRunId with
      | none => times
      | some id => times.setdefault id event.occurredAt)
  else if event.eventType = .taskRetrying then
    ([counterMetric "pyworkflowkit.task.retries" event []], times)
  else
    match event.eventType.taskOutcome with
    | none => ([], times)
    | some outcome =>
        let attributes := [("outcome", outcome)]
        let completed := counterMetric "pyworkflowkit.task.completed" event attributes
        match taskRunId with
        | none => ([completed], times)
        | some id =>
            match times.find? id with
            | none => ([completed], times)
            | some started =>
                ([completed, durationMetric "pyworkflowkit.task.duration" started.2 event
                  attributes], times.drop id)

/-- `project`: the projection, or the error of the redaction, and the projector afterwards. -/
def project (projector : RuntimeTelemetryProjector) (event : RuntimeEvent) :
    Except Error TelemetryProjection × RuntimeTelemetryProjector :=
  match redactMapping event.payload with
  | .error error => (.error error, projector)
  | .ok payload =>
      let telemetryEvent : TelemetryEvent := {
        name := "pyworkflowkit.runtime." ++ event.eventType.value.toLower
        occurredAt := event.occurredAt
        correlation := {
          eventId := event.eventId.value
          runId := event.runId.str
          taskRunId := event.taskRunId.map TaskRunId.str
          taskId := event.taskId.map Text.value
          attemptNumber := event.attemptNumber
          eventSequence := event.eventSequence }
        attributes := [("pyworkflowkit.event_type", event.eventType.value)]
        payload := payload }
      let counted := counterMetric "pyworkflowkit.runtime.events" event
        [("event_type", event.eventType.value)]
      let workflow := projectWorkflow projector.workflowStartedAt event
      let task := projectTask projector.taskStartedAt event
      (.ok ⟨telemetryEvent, counted :: (workflow.1 ++ task.1)⟩, ⟨workflow.2, task.2⟩)

end RuntimeTelemetryProjector

/-- The events differ at most in what their payloads hold under sensitive keys. -/
structure ConcealsEvent (left right : RuntimeEvent) : Prop where
  eventId : left.eventId = right.eventId
  eventType : left.eventType = right.eventType
  runId : left.runId = right.runId
  occurredAt : left.occurredAt = right.occurredAt
  eventSequence : left.eventSequence = right.eventSequence
  taskRunId : left.taskRunId = right.taskRunId
  taskId : left.taskId = right.taskId
  attemptNumber : left.attemptNumber = right.attemptNumber
  payload : ConcealsMapping left.payload right.payload

/-- A projection does not show what stands under a sensitive key. -/
theorem project_congr (projector : RuntimeTelemetryProjector) {left right : RuntimeEvent}
    (hsame : ConcealsEvent left right) : projector.project left = projector.project right := by
  have hpayload := redactMapping_congr hsame.payload
  cases left
  cases right
  obtain ⟨rfl, rfl, rfl, rfl, rfl, rfl, rfl, rfl, -⟩ := hsame
  simp only [RuntimeTelemetryProjector.project, hpayload]
  rfl

end PyWorkflowKit.V1
