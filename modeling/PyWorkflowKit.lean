import PyWorkflowKit.Authoring.Acyclicity
import PyWorkflowKit.Authoring.BuilderRuns
import PyWorkflowKit.Authoring.Builders
import PyWorkflowKit.Authoring.Cycles
import PyWorkflowKit.Authoring.Definitions
import PyWorkflowKit.Authoring.Flow
import PyWorkflowKit.Compat.Definitions
import PyWorkflowKit.Compat.Delays
import PyWorkflowKit.Compat.Equivalence
import PyWorkflowKit.Compat.Migration
import PyWorkflowKit.Compat.Snapshots
import PyWorkflowKit.Core.Action
import PyWorkflowKit.Core.Calendar
import PyWorkflowKit.Core.Chains
import PyWorkflowKit.Core.Delivery
import PyWorkflowKit.Core.DepthFirst
import PyWorkflowKit.Core.Layers
import PyWorkflowKit.Core.Paths
import PyWorkflowKit.Core.Program
import PyWorkflowKit.Core.Search
import PyWorkflowKit.Core.Sha256
import PyWorkflowKit.Core.Simulation
import PyWorkflowKit.Core.Snapshot
import PyWorkflowKit.Core.Sorting
import PyWorkflowKit.Core.Spans
import PyWorkflowKit.Core.StrEnum
import PyWorkflowKit.Core.Systems
import PyWorkflowKit.Core.Table
import PyWorkflowKit.Core.Traces
import PyWorkflowKit.Diagnostics.Inspection
import PyWorkflowKit.Diagnostics.Recovery
import PyWorkflowKit.Domain.Errors
import PyWorkflowKit.Domain.Evidence
import PyWorkflowKit.Domain.IsoFormat
import PyWorkflowKit.Domain.IsoText
import PyWorkflowKit.Domain.Json
import PyWorkflowKit.Domain.JsonReader
import PyWorkflowKit.Domain.JsonText
import PyWorkflowKit.Domain.KeyOrder
import PyWorkflowKit.Domain.Number
import PyWorkflowKit.Domain.Values
import PyWorkflowKit.Executors.Contracts
import PyWorkflowKit.Persistence.Checkpoints
import PyWorkflowKit.Persistence.Consistency
import PyWorkflowKit.Persistence.Contracts
import PyWorkflowKit.Persistence.Memory
import PyWorkflowKit.Persistence.Operations
import PyWorkflowKit.Persistence.Retention
import PyWorkflowKit.Persistence.Runs
import PyWorkflowKit.Persistence.UpdateContract
import PyWorkflowKit.Persistence.Writes
import PyWorkflowKit.Planning.Compilation
import PyWorkflowKit.Planning.Declarations
import PyWorkflowKit.Planning.Fingerprints
import PyWorkflowKit.Planning.Graph
import PyWorkflowKit.Planning.Immutability
import PyWorkflowKit.Planning.Layers
import PyWorkflowKit.Planning.LiveView
import PyWorkflowKit.Planning.Plan
import PyWorkflowKit.Planning.Planner
import PyWorkflowKit.Policies.Evaluation
import PyWorkflowKit.Policies.Retry
import PyWorkflowKit.Policies.Rules
import PyWorkflowKit.Runtime.Absorption
import PyWorkflowKit.Runtime.Attempts
import PyWorkflowKit.Runtime.Cancellation
import PyWorkflowKit.Runtime.Classification
import PyWorkflowKit.Runtime.Conclusions
import PyWorkflowKit.Runtime.Conservative
import PyWorkflowKit.Runtime.Containment
import PyWorkflowKit.Runtime.Courses
import PyWorkflowKit.Runtime.Creation
import PyWorkflowKit.Runtime.Discipline
import PyWorkflowKit.Runtime.Evaluations
import PyWorkflowKit.Runtime.Findings
import PyWorkflowKit.Runtime.Outcomes
import PyWorkflowKit.Runtime.Passes
import PyWorkflowKit.Runtime.PlanLoop
import PyWorkflowKit.Runtime.Readiness
import PyWorkflowKit.Runtime.Reconciliation
import PyWorkflowKit.Runtime.Records
import PyWorkflowKit.Runtime.Results
import PyWorkflowKit.Runtime.Resume
import PyWorkflowKit.Runtime.Reuse
import PyWorkflowKit.Runtime.Rounds
import PyWorkflowKit.Runtime.Scenes
import PyWorkflowKit.Runtime.Services
import PyWorkflowKit.Runtime.Steps
import PyWorkflowKit.Runtime.TimeLimits
import PyWorkflowKit.Runtime.Transitions
import PyWorkflowKit.Runtime.Verdicts
import PyWorkflowKit.Runtime.Workflow
import PyWorkflowKit.Serialization.Bodies
import PyWorkflowKit.Serialization.Codec
import PyWorkflowKit.Serialization.Mapping
import PyWorkflowKit.Serialization.RoundTrip
import PyWorkflowKit.Serialization.Schemas
import PyWorkflowKit.Serialization.UpcasterChains
import PyWorkflowKit.Serialization.Versions
import PyWorkflowKit.Sql.Durability
import PyWorkflowKit.Sql.EntityRows
import PyWorkflowKit.Sql.Mapping
import PyWorkflowKit.Sql.Mirror
import PyWorkflowKit.Sql.Prune
import PyWorkflowKit.Sql.PruneAgreement
import PyWorkflowKit.Sql.PruneExactness
import PyWorkflowKit.Sql.Refinement
import PyWorkflowKit.Sql.RowUpdates
import PyWorkflowKit.Sql.Rows
import PyWorkflowKit.Sql.Store
import PyWorkflowKit.States.Entities
import PyWorkflowKit.States.Machine
import PyWorkflowKit.States.Status
import PyWorkflowKit.V1.Balance
import PyWorkflowKit.V1.Capacity
import PyWorkflowKit.V1.ConcurrentRunner
import PyWorkflowKit.V1.Definitions
import PyWorkflowKit.V1.Entities
import PyWorkflowKit.V1.Executors.Asyncio
import PyWorkflowKit.V1.Executors.AsyncioDelivery
import PyWorkflowKit.V1.Executors.AsyncioProgress
import PyWorkflowKit.V1.Executors.Books
import PyWorkflowKit.V1.Executors.Common
import PyWorkflowKit.V1.Executors.Process
import PyWorkflowKit.V1.Executors.ProcessDelivery
import PyWorkflowKit.V1.Executors.Thread
import PyWorkflowKit.V1.Executors.ThreadDelivery
import PyWorkflowKit.V1.Failures
import PyWorkflowKit.V1.Handover
import PyWorkflowKit.V1.Manifest
import PyWorkflowKit.V1.Memory
import PyWorkflowKit.V1.Planning
import PyWorkflowKit.V1.Reconciliation
import PyWorkflowKit.V1.Recovery
import PyWorkflowKit.V1.Redaction
import PyWorkflowKit.V1.Resume
import PyWorkflowKit.V1.Runner
import PyWorkflowKit.V1.Services
import PyWorkflowKit.V1.Slots
import PyWorkflowKit.V1.StateMachine
import PyWorkflowKit.V1.Telemetry
import PyWorkflowKit.V1.UnitsOfWork
import PyWorkflowKit.V1.Validation
import PyWorkflowKit.V1.Writes
