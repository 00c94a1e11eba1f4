import PyWorkflowKit.Domain.IsoText
import PyWorkflowKit.V1.Definitions
import PyWorkflowKit.V1.Memory
import PyWorkflowKit.V1.Telemetry

/-!
# Execution manifests

Portable final evidence about a terminal run, built from the metadata store, and what it tells
about the values that the store keeps secret.
-/

namespace PyWorkflowKit.V1

open PyWorkflowKit.Core PyWorkflowKit.Domain

/-- What building a manifest raises. -/
inductive ManifestError where
  | raised (error : Error)
  | manifestInvariant (reason : String)
  | manifestNotReady (runId status : String)
  | manifestSerialization (path valueType : String)
deriving DecidableEq, Repr

structure ManifestAttempt where
  attemptId : String
  attemptNumber : Nat
  status : String
  startedAt : Option String
  finishedAt : Option String
  errorType : Option String
  errorCategory : Option String

structure ManifestArtifact where
  artifactId : String
  name : String
  uri : String
  mediaType : Option String
  checksum : Option String
  sizeBytes : Option Nat
  metadata : List (String × JsonValue)

structure ManifestExternalRunRef where
  externalRefId : String
  provider : String
  externalRunId : String
  uri : Option String
  metadata : List (String × JsonValue)

structure ManifestTaskRun where
  taskRunId : String
  taskId : String
  status : String
  skipReason : Option String
  createdAt : Option String
  startedAt : Option String
  finishedAt : Option String
  attempts : List ManifestAttempt
  artifacts : List ManifestArtifact
  externalRefs : List ManifestExternalRunRef

structure ManifestEvent where
  eventId : String
  eventSequence : Nat
  eventType : String
  occurredAt : String
  taskRunId : Option String
  taskId : Option String
  attemptNumber : Option Nat
  payload : List (String × JsonValue)

/-- Portable evidence for one terminal run. -/
structure RunManifest where
  schemaVersion : String
  runId : String
  workflowId : String
  workflowVersion : String
  status : String
  parameters : List (String × JsonValue)
  createdAt : Option String
  startedAt : Option String
  finishedAt : Option String
  tasks : List ManifestTaskRun
  events : List ManifestEvent

/-- `_iso_datetime_required`. -/
def isoDatetimeRequired (value : DateTime) : String := value.isoText.replace "+00:00" "Z"

/-- `_iso_datetime`. -/
def isoDatetime (value : Option DateTime) : Option String := value.map isoDatetimeRequired

mutual

/-- `_to_json_value`. -/
def toJsonValue (path : String) : PyValue → Except ManifestError JsonValue
  | .none => .ok .null
  | .str value => .ok (.str value)
  | .bool value => .ok (.bool value)
  | .int value => .ok (.int value)
  | .float text finite =>
      if finite then .ok (.float text) else .error (.manifestSerialization path "float")
  | .enum value => toJsonValue path value
  | .dict members =>
      (((sortBy Prod.fst (toJsonMembers path members)).map Prod.snd).mapM id).map
        fun normalized => .mapping (dictOf normalized)
  | .list items => ((toJsonItems path 0 items).mapM id).map .tuple
  | .tuple items => ((toJsonItems path 0 items).mapM id).map .tuple
  | .other typeName => .error (.manifestSerialization path typeName)

/-- The conversion of every item, not yet collected. -/
def toJsonItems (path : String) (index : Nat) :
    List PyValue → List (Except ManifestError JsonValue)
  | [] => []
  | item :: rest =>
      toJsonValue (path ++ "[" ++ toString index ++ "]") item ::
        toJsonItems path (index + 1) rest

/-- The conversion of every member under the text its key sorts by. -/
def toJsonMembers (path : String) :
    List (PyKey × PyValue) → List (String × Except ManifestError (String × JsonValue))
  | [] => []
  | (key, value) :: rest =>
      (key.text,
        match key with
        | .str name => (toJsonValue (path ++ "." ++ name) value).map fun converted =>
            (name, converted)
        | .other typeName => .error (.manifestSerialization path ("mapping-key:" ++ typeName))) ::
        toJsonMembers path rest

end

/-- The members of a mapping in key order, converted under a path. -/
def convertMembers (path : String) (values : Objects) :
    Except ManifestError (List (String × JsonValue)) :=
  (sortBy Prod.fst values).mapM fun member =>
    (toJsonValue (path ++ "." ++ member.1) member.2).map fun converted => (member.1, converted)

/-- `_attempt_manifest`. -/
def attemptManifest (attempt : TaskAttempt) : ManifestAttempt where
  attemptId := attempt.attemptId.str
  attemptNumber := attempt.attemptNumber
  status := attempt.status.value
  startedAt := isoDatetime attempt.startedAt
  finishedAt := isoDatetime attempt.finishedAt
  errorType := attempt.errorType
  errorCategory := attempt.errorCategory

/-- The metadata of an artifact or a reference, redacted before it is converted. -/
def metadataManifest (path : String) (metadata : Objects) :
    Except ManifestError (List (String × JsonValue)) :=
  match redactMapping metadata with
  | .error error => .error (.raised error)
  | .ok visible => convertMembers path visible

/-- `_artifact_manifest`. -/
def artifactManifest (artifact : ArtifactReference) : Except ManifestError ManifestArtifact :=
  (metadataManifest ("artifact." ++ artifact.artifactId.value) artifact.metadata).map
    fun metadata => {
      artifactId := artifact.artifactId.value
      name := artifact.name.value
      uri := artifact.uri.value
      mediaType := artifact.mediaType.map Text.value
      checksum := artifact.checksum.map Text.value
      sizeBytes := artifact.sizeBytes
      metadata := metadata }

/-- `_external_ref_manifest`. -/
def externalRefManifest (externalRef : ExternalRunRef) :
    Except ManifestError ManifestExternalRunRef :=
  (metadataManifest ("external_ref." ++ externalRef.externalRefId.value)
    externalRef.metadata).map fun metadata => {
      externalRefId := externalRef.externalRefId.value
      provider := externalRef.provider.value
      externalRunId := externalRef.externalRunId.value
      uri := externalRef.uri.map Text.value
      metadata := metadata }

/-- A workflow definition with the parameters that it declares sensitive. -/
structure GuardedWorkflow where
  definition : WorkflowDefinition
  sensitiveParameters : List Text
  declared : sensitiveParameters ⊆ definition.parameters.map WorkflowParameter.name

/-- The name of a parameter is declared sensitive. -/
def GuardedWorkflow.hides (workflow : GuardedWorkflow) (name : String) : Bool :=
  workflow.sensitiveParameters.any fun sensitive => sensitive.value = name

namespace RunManifestBuilder

/-- `_validate_workflow_identity`. -/
def validateWorkflowIdentity (workflow : WorkflowDefinition) (run : WorkflowRun) :
    Except ManifestError Unit :=
  if workflow.workflowId ≠ run.workflowId then
    .error (.manifestInvariant ("workflow id mismatch: definition=" ++ workflow.workflowId.value ++
      ", run=" ++ run.workflowId.value))
  else if workflow.version ≠ run.workflowVersion then
    .error (.manifestInvariant ("workflow version mismatch: definition=" ++
      workflow.version.value ++ ", run=" ++ run.workflowVersion.value))
  else .ok ()

/-- `_validate_terminal_run`. -/
def validateTerminalRun (run : WorkflowRun) : Except ManifestError Unit :=
  if run.status.isTerminal then .ok ()
  else .error (.manifestNotReady run.runId.str run.status.value)

/-- `_validate_task_runs`. -/
def validateTaskRuns : List TaskRun → Except ManifestError Unit
  | [] => .ok ()
  | taskRun :: rest =>
      if taskRun.status.isTerminal then validateTaskRuns rest
      else
        .error (.manifestInvariant ("task '" ++ taskRun.taskId.value ++ "' is not terminal: " ++
          taskRun.status.value))

/-- `_validate_attempts`, from some expected number on. -/
def validateAttempts (taskRun : TaskRun) (expectedNumber : Nat) :
    List TaskAttempt → Except ManifestError Unit
  | [] => .ok ()
  | attempt :: rest =>
      if attempt.attemptNumber ≠ expectedNumber then
        .error (.manifestInvariant ("task '" ++ taskRun.taskId.value ++
          "' attempt sequence is not contiguous at " ++ toString attempt.attemptNumber))
      else if ¬attempt.status.isTerminal then
        .error (.manifestInvariant ("task '" ++ taskRun.taskId.value ++
          "' has non-terminal attempt " ++ toString attempt.attemptNumber ++ ": " ++
          attempt.status.value))
      else validateAttempts taskRun (expectedNumber + 1) rest

/-- The sequence checks of `_validate_events`. -/
def validateSequences (previousSequence : Nat) : List RuntimeEvent → Except ManifestError Unit
  | [] => .ok ()
  | event :: rest =>
      match event.eventSequence with
      | none =>
          .error (.manifestInvariant ("runtime event sequence is not strictly increasing: " ++
            "previous " ++ toString previousSequence ++ ", got None"))
      | some sequence =>
          if sequence ≤ previousSequence then
            .error (.manifestInvariant ("runtime event sequence is not strictly increasing: " ++
              "previous " ++ toString previousSequence ++ ", got " ++ toString sequence))
          else validateSequences sequence rest

/-- The event type that ends a run with a terminal status. -/
def expectedTerminalEvent : WorkflowRunStatus → RuntimeEventType
  | .succeeded => .workflowSucceeded
  | .failed => .workflowFailed
  | _ => .workflowCancelled

/-- `_validate_events` of a terminal run. -/
def validateEvents (run : WorkflowRun) (events : List RuntimeEvent) :
    Except ManifestError Unit :=
  match events.getLast? with
  | none => .error (.manifestInvariant "terminal run has no runtime events")
  | some last => do
      validateSequences 0 events
      if last.eventType ≠ expectedTerminalEvent run.status then
        .error (.manifestInvariant ("terminal event mismatch: expected " ++
          (expectedTerminalEvent run.status).value ++ ", got " ++ last.eventType.value))
      else .ok ()

/-- `list_artifacts`. -/
def listArtifacts (store : MemoryState) (taskRunId : TaskRunId) : List ArtifactReference :=
  sortBy (fun artifact => artifact.artifactId.value)
    ((store.artifacts.rows.filter fun owned => owned.taskRunId = taskRunId).map Owned.value)

/-- `_task_manifest`. -/
def taskManifest (store : MemoryState) (taskRun : TaskRun) :
    Except ManifestError ManifestTaskRun := do
  let attempts := sortBy TaskAttempt.attemptNumber (store.listTaskAttempts taskRun.taskRunId)
  validateAttempts taskRun 1 attempts
  let artifacts ← (sortBy (fun artifact => artifact.artifactId.value)
    (listArtifacts store taskRun.taskRunId)).mapM artifactManifest
  let externalRefs ← (sortBy (fun externalRef => externalRef.externalRefId.value)
    (store.listExternalRunRefs taskRun.taskRunId)).mapM externalRefManifest
  .ok {
    taskRunId := taskRun.taskRunId.str
    taskId := taskRun.taskId.value
    status := taskRun.status.value
    skipReason := taskRun.skipReason.map SkipReason.value
    createdAt := isoDatetime taskRun.createdAt
    startedAt := isoDatetime taskRun.startedAt
    finishedAt := isoDatetime taskRun.finishedAt
    attempts := attempts.map attemptManifest
    artifacts := artifacts
    externalRefs := externalRefs }

/-- `_event_manifest`. -/
def eventManifest (event : RuntimeEvent) : Except ManifestError ManifestEvent :=
  match event.eventSequence with
  | none =>
      .error (.manifestInvariant ("event '" ++ event.eventId.value ++ "' has no event_sequence"))
  | some sequence =>
      (convertMembers ("event." ++ event.eventId.value) event.payload).map fun payload => {
        eventId := event.eventId.value
        eventSequence := sequence
        eventType := event.eventType.value
        occurredAt := isoDatetimeRequired event.occurredAt
        taskRunId := event.taskRunId.map TaskRunId.str
        taskId := event.taskId.map Text.value
        attemptNumber := event.attemptNumber
        payload := payload }

/-- A parameter, or `REDACTED_VALUE` in its place. -/
def parameterManifest (workflow : GuardedWorkflow) (parameter : String × PyValue) :
    Except ManifestError (String × JsonValue) :=
  if workflow.hides parameter.1 then .ok (parameter.1, .str "<redacted>")
  else
    (toJsonValue ("parameters." ++ parameter.1) parameter.2).map fun converted =>
      (parameter.1, converted)

/-- The manifest of a run that the store has. -/
def buildRun (store : MemoryState) (workflow : GuardedWorkflow) (runId : WorkflowRunId)
    (run : WorkflowRun) : Except ManifestError RunManifest := do
  validateWorkflowIdentity workflow.definition run
  validateTerminalRun run
  let taskRuns := sortBy (fun taskRun => taskRun.taskId.value) (store.listTaskRuns runId)
  validateTaskRuns taskRuns
  let events := sortBy
    (fun event => toLex (event.eventSequence.getD (2 ^ 63 - 1), event.eventId.value))
    (store.listEvents runId)
  validateEvents run events
  let parameters ← (sortBy Prod.fst run.parameters).mapM (parameterManifest workflow)
  let tasks ← taskRuns.mapM (taskManifest store)
  let eventManifests ← events.mapM eventManifest
  .ok {
    schemaVersion := "1"
    runId := run.runId.str
    workflowId := run.workflowId.value
    workflowVersion := run.workflowVersion.value
    status := run.status.value
    parameters := parameters
    createdAt := isoDatetime run.createdAt
    startedAt := isoDatetime run.startedAt
    finishedAt := isoDatetime run.finishedAt
    tasks := tasks
    events := eventManifests }

/-- `RunManifestBuilder.build`. -/
def build (store : MemoryState) (workflow : GuardedWorkflow) (runId : WorkflowRunId) :
    Except ManifestError RunManifest :=
  match store.getWorkflowRun runId with
  | .error error => .error (.raised error)
  | .ok run => buildRun store workflow runId run

end RunManifestBuilder

section Noninterference

/-- The runs differ at most in the parameters that are declared sensitive. -/
structure ConcealsRun (workflow : GuardedWorkflow) (left right : WorkflowRun) : Prop where
  runId : left.runId = right.runId
  workflowId : left.workflowId = right.workflowId
  workflowVersion : left.workflowVersion = right.workflowVersion
  status : left.status = right.status
  parameters : List.Forall₂ (fun first second => first.1 = second.1 ∧
    (workflow.hides first.1 = true ∨ first.2 = second.2)) left.parameters right.parameters
  createdAt : left.createdAt = right.createdAt
  startedAt : left.startedAt = right.startedAt
  finishedAt : left.finishedAt = right.finishedAt

/-- The artifacts differ at most under sensitive keys of their metadata. -/
def ConcealsArtifact (left right : Owned ArtifactReference) : Prop :=
  ∃ metadata, ConcealsMapping left.value.metadata metadata ∧
    right = { left with value := { left.value with metadata := metadata } }

/-- The references differ at most under sensitive keys of their metadata. -/
def ConcealsReference (left right : Owned ExternalRunRef) : Prop :=
  ∃ metadata, ConcealsMapping left.value.metadata metadata ∧
    right = { left with value := { left.value with metadata := metadata } }

/-- The stores differ at most in sensitive parameters and under sensitive keys of the metadata
of artifacts and external references. -/
structure ConcealsStore (workflow : GuardedWorkflow) (left right : MemoryState) : Prop where
  workflowRuns : List.Forall₂ (ConcealsRun workflow) left.workflowRuns.rows
    right.workflowRuns.rows
  taskRuns : left.taskRuns = right.taskRuns
  taskAttempts : left.taskAttempts = right.taskAttempts
  events : left.events = right.events
  taskOutputs : left.taskOutputs = right.taskOutputs
  artifacts : List.Forall₂ ConcealsArtifact left.artifacts.rows right.artifacts.rows
  externalRefs : List.Forall₂ ConcealsReference left.externalRefs.rows right.externalRefs.rows

/-- Sorting and mapping look at the keys and the images only. -/
theorem map_sortBy_congr {α β κ : Type} [LinearOrder κ] {key : α → κ} {f : α → β}
    {left right : List α}
    (hsame : (left.map fun value => (key value, f value)) =
      right.map fun value => (key value, f value)) :
    (sortBy key left).map f = (sortBy key right).map f := by
  have hpairs : ∀ values : List α, (sortBy key values).map f =
      (sortBy Prod.fst (values.map fun value => (key value, f value))).map Prod.snd := by
    intro values
    rw [sortBy_map, List.map_map]
    rfl
  rw [hpairs, hpairs, hsame]

theorem mapM_congr_map {α β ε : Type} {f : α → Except ε β} {left right : List α}
    (hsame : left.map f = right.map f) : left.mapM f = right.mapM f := by
  have hmap : ∀ values : List α, values.mapM f = (values.map f).mapM id := by
    intro values
    rw [List.mapM_map]
    rfl
  rw [hmap, hmap, hsame]

theorem map_eq_of_forall₂ {α β : Type} {related : α → α → Prop} {f : α → β} {left right : List α}
    (hsame : List.Forall₂ related left right)
    (himage : ∀ first second, related first second → f first = f second) :
    left.map f = right.map f := by
  induction hsame with
  | nil => rfl
  | cons hhead _ ih => rw [List.map_cons, List.map_cons, himage _ _ hhead, ih]

namespace RunManifestBuilder

variable {workflow : GuardedWorkflow} {left right : MemoryState}

theorem parameters_congr {values others : Objects}
    (hsame : List.Forall₂ (fun first second => first.1 = second.1 ∧
      (workflow.hides first.1 = true ∨ first.2 = second.2)) values others) :
    (sortBy Prod.fst values).mapM (parameterManifest workflow) =
      (sortBy Prod.fst others).mapM (parameterManifest workflow) := by
  apply mapM_congr_map
  apply map_sortBy_congr
  apply map_eq_of_forall₂ hsame
  intro first second hrelated
  obtain ⟨name, value⟩ := first
  obtain ⟨otherName, other⟩ := second
  obtain ⟨rfl, hhidden | rfl⟩ := hrelated
  · have hhidden' : workflow.hides name = true := hhidden
    simp only [parameterManifest, hhidden', if_true]
  · rfl

theorem metadataManifest_congr (path : String) {values others : Objects}
    (hsame : ConcealsMapping values others) :
    metadataManifest path values = metadataManifest path others := by
  rw [metadataManifest, metadataManifest, redactMapping_congr hsame]

theorem artifactManifest_congr {first second : Owned ArtifactReference}
    (hsame : ConcealsArtifact first second) :
    (first.value.artifactId.value, artifactManifest first.value) =
      (second.value.artifactId.value, artifactManifest second.value) := by
  obtain ⟨metadata, hmetadata, rfl⟩ := hsame
  simp only [artifactManifest, metadataManifest_congr _ hmetadata]

theorem externalRefManifest_congr {first second : Owned ExternalRunRef}
    (hsame : ConcealsReference first second) :
    (first.value.externalRefId.value, externalRefManifest first.value) =
      (second.value.externalRefId.value, externalRefManifest second.value) := by
  obtain ⟨metadata, hmetadata, rfl⟩ := hsame
  simp only [externalRefManifest, metadataManifest_congr _ hmetadata]

/-- The rows of two tables that belong to one task run have the same manifests. -/
theorem owned_congr {α β : Type} {related : Owned α → Owned α → Prop} {key : α → String}
    {manifest : α → Except ManifestError β} {rows others : List (Owned α)}
    (hsame : List.Forall₂ related rows others)
    (howner : ∀ first second, related first second → first.taskRunId = second.taskRunId)
    (hmanifest : ∀ first second, related first second →
      (key first.value, manifest first.value) = (key second.value, manifest second.value))
    (taskRunId : TaskRunId) :
    (sortBy key (sortBy key
      ((rows.filter fun owned => owned.taskRunId = taskRunId).map Owned.value))).mapM manifest =
      (sortBy key (sortBy key
        ((others.filter fun owned => owned.taskRunId = taskRunId).map
          Owned.value))).mapM manifest := by
  have himages : ((rows.filter fun owned => owned.taskRunId = taskRunId).map Owned.value).map
        (fun value => (key value, manifest value)) =
      ((others.filter fun owned => owned.taskRunId = taskRunId).map Owned.value).map
        fun value => (key value, manifest value) := by
    induction hsame with
    | nil => rfl
    | @cons first second rest others hhead _ ih =>
        have hfirst := howner first second hhead
        by_cases howned : second.taskRunId = taskRunId
        · rw [List.filter_cons_of_pos (by simpa [hfirst] using howned),
            List.filter_cons_of_pos (by simpa using howned)]
          simp only [List.map_cons, hmanifest first second hhead]
          rw [ih]
        · rw [List.filter_cons_of_neg (by simpa [hfirst] using howned),
            List.filter_cons_of_neg (by simpa using howned)]
          exact ih
  rw [sortBy_eq_self key (sortBy_pairwise key _), sortBy_eq_self key (sortBy_pairwise key _)]
  exact mapM_congr_map (map_sortBy_congr himages)

theorem taskManifest_congr (hsame : ConcealsStore workflow left right) (taskRun : TaskRun) :
    taskManifest left taskRun = taskManifest right taskRun := by
  have hattempts : left.listTaskAttempts taskRun.taskRunId =
      right.listTaskAttempts taskRun.taskRunId := by
    rw [MemoryState.listTaskAttempts, MemoryState.listTaskAttempts, hsame.taskAttempts]
  have hartifacts := @owned_congr _ _ _
    (fun artifact : ArtifactReference => artifact.artifactId.value) _ _ _ hsame.artifacts
    (fun _ _ hrelated => by obtain ⟨_, _, rfl⟩ := hrelated; rfl)
    (fun _ _ => artifactManifest_congr) taskRun.taskRunId
  have hreferences := @owned_congr _ _ _
    (fun externalRef : ExternalRunRef => externalRef.externalRefId.value) _ _ _ hsame.externalRefs
    (fun _ _ hrelated => by obtain ⟨_, _, rfl⟩ := hrelated; rfl)
    (fun _ _ => externalRefManifest_congr) taskRun.taskRunId
  simp only [taskManifest, listArtifacts, MemoryState.listExternalRunRefs, hattempts, hartifacts,
    hreferences]

theorem buildRun_congr (hsame : ConcealsStore workflow left right) (runId : WorkflowRunId)
    {run other : WorkflowRun} (hruns : ConcealsRun workflow run other) :
    buildRun left workflow runId run = buildRun right workflow runId other := by
  have htasks : taskManifest left = taskManifest right :=
    funext fun taskRun => taskManifest_congr hsame taskRun
  have hlisted : left.listTaskRuns runId = right.listTaskRuns runId := by
    rw [MemoryState.listTaskRuns, MemoryState.listTaskRuns, hsame.taskRuns]
  have hevents : left.listEvents runId = right.listEvents runId := by
    rw [MemoryState.listEvents, MemoryState.listEvents, hsame.events]
  have hparameters := parameters_congr hruns.parameters
  cases run
  cases other
  obtain ⟨rfl, rfl, rfl, rfl, -, rfl, rfl, rfl⟩ := hruns
  simp only [buildRun, validateWorkflowIdentity, validateTerminalRun, validateEvents, htasks,
    hlisted, hevents, hparameters]

/-- A manifest does not show the values that the store keeps secret. -/
theorem build_congr (hsame : ConcealsStore workflow left right) (runId : WorkflowRunId) :
    build left workflow runId = build right workflow runId := by
  have hfound := find?_of_forall₂ (fun _ _ hrelated => hrelated.runId) hsame.workflowRuns runId
  rw [build, build, MemoryState.getWorkflowRun, MemoryState.getWorkflowRun, Table.find?,
    Table.find?]
  generalize left.workflowRuns.rows.find? (fun run => run.runId = runId) = run at hfound ⊢
  generalize right.workflowRuns.rows.find? (fun run => run.runId = runId) = other at hfound ⊢
  cases hfound with
  | none => rfl
  | some hrelated => exact buildRun_congr hsame runId hrelated

end RunManifestBuilder

/-- What stands under sensitive keys shows in no redacted mapping, no telemetry projection and,
with the sensitive parameters, in no manifest; everything else is kept. -/
theorem secrets_do_not_show :
    (∀ left right : Objects, ConcealsMapping left right →
      redactMapping left = redactMapping right) ∧
    (∀ values : Objects, (∀ member ∈ values, TextKeys member.2) →
      ∃ result, redactMapping values = .ok result ∧ ConcealsMapping values result ∧
        (∀ member ∈ result, (isSensitiveKey member.1 = true ∧ member.2 = redacted) ∨
          (¬isSensitiveKey member.1 = true ∧ Redacted member.2)) ∧
        redactMapping result = .ok result) ∧
    (∀ (projector : RuntimeTelemetryProjector) (left right : RuntimeEvent),
      ConcealsEvent left right → projector.project left = projector.project right) ∧
    ∀ (workflow : GuardedWorkflow) (left right : MemoryState), ConcealsStore workflow left right →
      ∀ runId, RunManifestBuilder.build left workflow runId =
        RunManifestBuilder.build right workflow runId := by
  refine ⟨fun _ _ => redactMapping_congr, fun values hkeys => ?_,
    fun projector _ _ => project_congr projector,
    fun _ _ _ hsame => RunManifestBuilder.build_congr hsame⟩
  obtain ⟨result, hresult⟩ := exists_redactMapping hkeys
  exact ⟨result, hresult, redactMapping_spec hresult⟩

/-- Two tokens inside a nested mapping. -/
theorem secrets_do_not_show_nested :
    redactMapping [("request", .dict [(.str "X-Auth-Token", .str "one"), (.str "page", .int 2)])] =
      redactMapping [("request", .dict [(.str "X-Auth-Token", .int 7), (.str "page", .int 2)])] :=
  secrets_do_not_show.1 _ _ (.cons ⟨rfl, Or.inr
    ⟨⟨rfl, Or.inl (by decide : isSensitiveKey "X-Auth-Token" = true)⟩,
      ⟨rfl, Or.inr rfl⟩, trivial⟩⟩ .nil)

end Noninterference

end PyWorkflowKit.V1
