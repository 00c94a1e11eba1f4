import PyWorkflowKit.Core.StrEnum
import PyWorkflowKit.Domain.Values
import Mathlib.Data.String.Basic

/-!
# Correlation, external references, failures and diagnostics

The immutable evidence values of the runtime.  Every constructor check of the
source is a property of a field's type.
-/

namespace PyWorkflowKit.Domain

open PyWorkflowKit.Core

/-- A dictionary of strings, listed by strictly increasing key. -/
structure Baggage where
  members : Pairs
  sorted : members.Pairwise fun left right => left.1 < right.1

theorem Baggage.eq_iff (left right : Baggage) :
    left = right ↔ left.members = right.members := by
  cases left
  cases right
  exact Baggage.mk.injEq .. ▸ Iff.rfl

instance : DecidableEq Baggage := fun left right =>
  decidable_of_iff (left.members = right.members) (left.eq_iff right).symm

theorem Baggage.sorted_nil : ([] : Pairs).Pairwise fun left right => left.1 < right.1 :=
  .nil

def Baggage.empty : Baggage := ⟨[], Baggage.sorted_nil⟩

structure CorrelationContext where
  correlationId : CorrelationId
  causationId : Option Text
  parentExecutionId : Option Text
  workflowRunId : Option Text
  taskRunId : Option Text
  taskAttemptId : Option Text
  ingestionRunId : Option Text
  transformationExecutionId : Option Text
  traceId : Option Text
  spanId : Option Text
  traceparent : Option Text
  tracestate : Option Text
  baggage : Baggage
deriving DecidableEq

/-- `CorrelationContext(correlation_id=…)`. -/
def CorrelationContext.new (correlationId : CorrelationId) : CorrelationContext where
  correlationId := correlationId
  causationId := none
  parentExecutionId := none
  workflowRunId := none
  taskRunId := none
  taskAttemptId := none
  ingestionRunId := none
  transformationExecutionId := none
  traceId := none
  spanId := none
  traceparent := none
  tracestate := none
  baggage := .empty

structure ExternalRunRef where
  provider : Text
  externalRunId : Text
  kind : Text
  statusHint : Option Text
  statusLocator : Option Text
  correlationId : Option CorrelationId
  causationId : Option Text
  metadata : Pairs
  nameSpace : Text
  contractVersion : Text
deriving DecidableEq

inductive FailureCategory where
  | validation
  | configuration
  | capability
  | authentication
  | authorization
  | notFound
  | conflict
  | transient
  | timeout
  | cancelled
  | resourceExhausted
  | rateLimited
  | integrity
  | contractViolation
  | sideEffectFailed
  | unknownOutcome
  | internal
  | externalProvider
deriving DecidableEq, Repr

def FailureCategory.value : FailureCategory → String
  | validation => "validation"
  | configuration => "configuration"
  | capability => "capability"
  | authentication => "authentication"
  | authorization => "authorization"
  | notFound => "not_found"
  | conflict => "conflict"
  | transient => "transient"
  | timeout => "timeout"
  | cancelled => "cancelled"
  | resourceExhausted => "resource_exhausted"
  | rateLimited => "rate_limited"
  | integrity => "integrity"
  | contractViolation => "contract_violation"
  | sideEffectFailed => "side_effect_failed"
  | unknownOutcome => "unknown_outcome"
  | internal => "internal"
  | externalProvider => "external_provider"

instance : StrEnum FailureCategory where
  members := [.validation, .configuration, .capability, .authentication,
    .authorization, .notFound, .conflict, .transient, .timeout, .cancelled,
    .resourceExhausted, .rateLimited, .integrity, .contractViolation,
    .sideEffectFailed, .unknownOutcome, .internal, .externalProvider]
  value := FailureCategory.value
  find_value member := by cases member <;> decide

inductive Retryability where
  | retryable
  | nonRetryable
  | unknown
  | retryableAfterReconciliation
deriving DecidableEq, Repr

def Retryability.value : Retryability → String
  | retryable => "retryable"
  | nonRetryable => "non_retryable"
  | unknown => "unknown"
  | retryableAfterReconciliation => "retryable_after_reconciliation"

instance : StrEnum Retryability where
  members := [.retryable, .nonRetryable, .unknown, .retryableAfterReconciliation]
  value := Retryability.value
  find_value member := by cases member <;> decide

inductive OutcomeUncertainty where
  | known
  | unknown
  | requiresReconciliation
deriving DecidableEq, Repr

def OutcomeUncertainty.value : OutcomeUncertainty → String
  | known => "known"
  | unknown => "unknown"
  | requiresReconciliation => "requires_reconciliation"

instance : StrEnum OutcomeUncertainty where
  members := [.known, .unknown, .requiresReconciliation]
  value := OutcomeUncertainty.value
  find_value member := by cases member <;> decide

structure FailureEvidence where
  errorCode : Text
  category : FailureCategory
  retryability : Retryability
  uncertainty : OutcomeUncertainty
  correlationId : CorrelationId
  sourceFramework : Text
  workflowRunId : Option Text
  taskRunId : Option Text
  taskAttemptId : Option Text
  externalRun : Option ExternalRunRef
  sourceComponent : Option Text
  providerCode : Option Text
  messageSummary : Option Text
  occurredAt : Instant
  details : Pairs
  contractVersion : Text
deriving DecidableEq

inductive DiagnosticSeverity where
  | debug
  | info
  | warning
  | error
  | critical
deriving DecidableEq, Repr

def DiagnosticSeverity.value : DiagnosticSeverity → String
  | debug => "debug"
  | info => "info"
  | warning => "warning"
  | error => "error"
  | critical => "critical"

instance : StrEnum DiagnosticSeverity where
  members := [.debug, .info, .warning, .error, .critical]
  value := DiagnosticSeverity.value
  find_value member := by cases member <;> decide

structure Diagnostic where
  code : Text
  severity : DiagnosticSeverity
  summary : Text
  details : Pairs
  workflowRunId : Option Text
  taskRunId : Option Text
  taskAttemptId : Option Text
  correlationId : Option CorrelationId
  sourceComponent : Option Text
  decisionContext : Option Text
  relatedPolicy : Option Text
  sourceFramework : Text
deriving DecidableEq

end PyWorkflowKit.Domain
