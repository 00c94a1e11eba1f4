import Mathlib.Data.Option.Basic

/-!
# Errors

The exceptions that the modelled code raises, with the data their constructors
take.  The exception class is what a caller can catch.
-/

namespace PyWorkflowKit.Domain

inductive PyError where
  | valueError (message : String)
  | typeError (message : String)
  | overflowError (message : String)
  | keyError (key : String)
  | stopIteration
  | statementError (message : String)
  | runtimeInvariant (reason : String)
  | executorNotFound (executorKey : String)
  | invalidStateTransition (entityType entityId currentStatus targetStatus : String)
  | terminalState (entityType entityId currentStatus targetStatus : String)
  | metadataNotFound (entityType entityId : String)
  | duplicateMetadata (entityType entityId : String)
  | metadataConflict (entityType entityId expected actual : String)
  | metadataInvariant (reason : String)
  | workflowNotFound (runId : String)
  | invalidRunStateForResume (runId status : String)
  | graphTopologyMismatch (runId expectedFingerprint actualFingerprint : String)
  | circularDependency (cyclePath : List String)
deriving DecidableEq, Repr

inductive ErrorClass where
  | valueError
  | typeError
  | overflowError
  | keyError
  | stopIteration
  | statementError
  | runtimeInvariant
  | executorNotFound
  | invalidStateTransition
  | terminalState
  | metadataNotFound
  | duplicateMetadata
  | metadataConflict
  | metadataInvariant
  | workflowNotFound
  | invalidRunStateForResume
  | graphTopologyMismatch
  | circularDependency
deriving DecidableEq, Repr

namespace PyError

/-- `type(exc)`. -/
def errorClass : PyError → ErrorClass
  | valueError _ => .valueError
  | typeError _ => .typeError
  | overflowError _ => .overflowError
  | keyError _ => .keyError
  | stopIteration => .stopIteration
  | statementError _ => .statementError
  | runtimeInvariant _ => .runtimeInvariant
  | executorNotFound _ => .executorNotFound
  | invalidStateTransition .. => .invalidStateTransition
  | terminalState .. => .terminalState
  | metadataNotFound .. => .metadataNotFound
  | duplicateMetadata .. => .duplicateMetadata
  | metadataConflict .. => .metadataConflict
  | metadataInvariant _ => .metadataInvariant
  | workflowNotFound _ => .workflowNotFound
  | invalidRunStateForResume .. => .invalidRunStateForResume
  | graphTopologyMismatch .. => .graphTopologyMismatch
  | circularDependency _ => .circularDependency

/-- The errors of the state machines. -/
def isStateMachineError (error : PyError) : Bool :=
  match error with
  | invalidStateTransition .. => true
  | terminalState .. => true
  | _ => false

/-- The quoted rendering of a text in an error message. -/
def quoted (text : String) : String := "'" ++ text ++ "'"

end PyError

end PyWorkflowKit.Domain
