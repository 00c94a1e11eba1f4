import PyWorkflowKit.Core.Table
import PyWorkflowKit.Domain.Json
import PyWorkflowKit.Domain.Values

/-!
# Relational rows

The rows of the relational store and the tables that hold them.  Text columns
hold strings, timestamp columns hold instants and JSON columns hold documents.
-/

namespace PyWorkflowKit.Sql

open PyWorkflowKit.Core PyWorkflowKit.Domain

/-- A JSON document of the row mapping.  The text that `isoformat` gives for a
datetime is kept as the instant that `fromisoformat` reads back from it. -/
inductive JsonDoc where
  | null
  | bool (value : Bool)
  | str (value : String)
  | dateTime (at_ : Instant)
  | list (items : List JsonDoc)
  | dict (members : List (String × JsonDoc))

structure WorkflowRunRow where
  runId : String
  workflowName : String
  workflowVersion : String
  definitionFingerprint : String
  planFingerprint : String
  correlationJson : List (String × JsonDoc)
  status : String
  createdAt : Instant
  startedAt : Option Instant
  endedAt : Option Instant
  failureJson : Option (List (String × JsonDoc))

structure TaskRunRow where
  taskRunId : String
  workflowRunId : String
  taskKey : String
  status : String
  createdAt : Instant
  startedAt : Option Instant
  endedAt : Option Instant
  skipReason : Option String
  blockReason : Option String
  failureJson : Option (List (String × JsonDoc))

structure TaskAttemptRow where
  attemptId : String
  taskRunId : String
  attemptNumber : Int
  status : String
  createdAt : Instant
  startedAt : Option Instant
  endedAt : Option Instant
  failureJson : Option (List (String × JsonDoc))

structure ExternalRunRefRow where
  externalRefPk : Nat
  attemptId : String
  provider : String
  kind : String
  externalRunId : String
  statusHint : Option String
  statusLocator : Option String
  correlationId : Option String
  causationId : Option String
  metadataJson : JsonDoc
  nameSpace : String
  contractVersion : String

structure StateTransitionRow where
  sequence : Nat
  entityType : String
  entityId : String
  fromStatus : Option String
  toStatus : String
  occurredAt : Instant

structure TaskOutputCheckpointRow where
  taskRunId : String
  outputJson : PyValue
  recordedAt : Instant
  digest : String

structure ManifestReferenceRow where
  workflowRunId : String
  locator : String
  schemaVersion : String
  digest : Option String
deriving DecidableEq

/-- The tables of the relational store, each with its primary key. -/
structure SqlState where
  workflowRuns : Table WorkflowRunRow.runId
  taskRuns : Table TaskRunRow.taskRunId
  taskAttempts : Table TaskAttemptRow.attemptId
  externalRefs : Table ExternalRunRefRow.externalRefPk
  transitions : Table StateTransitionRow.sequence
  outputCheckpoints : Table TaskOutputCheckpointRow.taskRunId
  manifests : Table ManifestReferenceRow.workflowRunId

def SqlState.empty : SqlState :=
  ⟨.empty, .empty, .empty, .empty, .empty, .empty, .empty⟩

/-- The key the engine gives to a row inserted into an integer-keyed table:
one more than the largest key in use. -/
def nextRowId (keys : List Nat) : Nat := keys.foldl max 0 + 1

/-- The timestamp columns of a row can be stored: binding converts each of them
to UTC, which fails when the UTC reading is not representable. -/
def bindable (columns : List (Option Instant)) : Prop :=
  ∀ column ∈ columns, ∀ at_ ∈ column, at_.InUtc

instance (columns : List (Option Instant)) : Decidable (bindable columns) := by
  unfold bindable
  infer_instance

def WorkflowRunRow.timestamps (row : WorkflowRunRow) : List (Option Instant) :=
  [some row.createdAt, row.startedAt, row.endedAt]

def TaskRunRow.timestamps (row : TaskRunRow) : List (Option Instant) :=
  [some row.createdAt, row.startedAt, row.endedAt]

def TaskAttemptRow.timestamps (row : TaskAttemptRow) : List (Option Instant) :=
  [some row.createdAt, row.startedAt, row.endedAt]

end PyWorkflowKit.Sql
